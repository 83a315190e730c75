import LiveMarkup.Expr.Printer
import LiveMarkup.Main
import LiveMarkup.Proofs.Bindings.Following
import LiveMarkup.Proofs.Bindings.Limits
import LiveMarkup.Proofs.Bindings.Lists
import LiveMarkup.Proofs.Bindings.Styles
import LiveMarkup.Proofs.Bindings.Written
import LiveMarkup.Proofs.Cascades.Termination
import LiveMarkup.Proofs.Construction.Order
import LiveMarkup.Proofs.Grammar.DocumentCompleteness
import LiveMarkup.Proofs.Grammar.DocumentExactness
import LiveMarkup.Proofs.Grammar.ExpressionExactness
import LiveMarkup.Proofs.Grammar.ExpressionSoundness
import LiveMarkup.Proofs.Lexing.Positions
import LiveMarkup.Proofs.Lexing.Segmentation
import LiveMarkup.Proofs.Lifecycle.Balance
import LiveMarkup.Proofs.Listening.Readers
import LiveMarkup.Proofs.Listening.Spellings
import LiveMarkup.Proofs.Lists.Replaying
import LiveMarkup.Proofs.Naming.Casing
import LiveMarkup.Proofs.Naming.Uniqueness
import LiveMarkup.Proofs.Operators.Comparisons
import LiveMarkup.Proofs.Operators.Integers
import LiveMarkup.Proofs.Parsing.Errors
import LiveMarkup.Proofs.Places.Ranges
import LiveMarkup.Proofs.Places.Trees
import LiveMarkup.Proofs.Traces.NoTrace
import LiveMarkup.Proofs.Trees.Board
