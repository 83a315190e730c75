import LiveMarkup.Token.Lexer

/-!
# Parse errors

Why a source text is not a document or an expression, and where that shows.
-/

namespace LiveMarkup

/-- What is wrong with a source text. -/
inductive ParseError.Cause where
  /-- A character that begins no token. -/
  | unexpectedCharacter (char : Char)
  /-- Something else was expected in place of a token. -/
  | expected (what : String) (found : Token)
  /-- An operator that needs an operand before it. -/
  | operandMissing (symbol : String)
  /-- A symbol that is no operator between operands. -/
  | unsupportedOperator (symbol : String)
  /-- A parenthesis that is not closed before a token. -/
  | unclosedParenthesis (opened : Position) (found : Token)
  | integerOutOfRange (literal : String)
  | invalidFloat (literal : String)
  | missingRoot
  /-- A component body that is not closed. -/
  | unclosedBlock
  | duplicateImport (moduleName : String)
  | duplicateAlias (name : String)
  | duplicateObjectKey (key : String)
  | duplicateProperty (key : String)
  | duplicateSignal (event : String)
  /-- The handler of a signal is not a string literal. -/
  | handlerNotText (event : String)
  /-- A signal is bound like a live property. -/
  | liveSignal (event : String)
  | propertyInLoop (key : String)
  | signalInLoop (event : String)
  /-- The nesting exceeds the bound on it, which no token list does. -/
  | nestedTooDeep
deriving DecidableEq, Repr

/-- An error with the place it is reported at. -/
structure ParseError where
  cause : ParseError.Cause
  position : Position
deriving DecidableEq, Repr

/-- The classes of parse errors that callers tell apart. -/
inductive ParseError.Kind where
  | tokenize
  | grammar
  | missingRoot
  | duplicateImport (moduleName : String)
  | duplicateKey (key : String)
  | duplicateAlias (name : String)
deriving DecidableEq, Repr

namespace ParseError

def Cause.kind : Cause → Kind
  | .unexpectedCharacter _ => .tokenize
  | .missingRoot => .missingRoot
  | .duplicateImport moduleName => .duplicateImport moduleName
  | .duplicateAlias name => .duplicateAlias name
  | .duplicateObjectKey key => .duplicateKey key
  | .duplicateProperty key => .duplicateKey key
  | .duplicateSignal event => .duplicateKey event
  | _ => .grammar

/-- How a message names the token it found. -/
def foundText (token : Token) : String :=
  match token.kind with
  | .endOfInput => "end of input"
  | _ => "'" ++ token.value ++ "'"

def Cause.message : Cause → String
  | .unexpectedCharacter char => "unexpected character " ++ Text.quotedChar char
  | .expected what found => "expected " ++ what ++ ", found " ++ foundText found
  | .operandMissing symbol => "expected a value before '" ++ symbol ++ "'"
  | .unsupportedOperator symbol => "unsupported operator '" ++ symbol ++ "'"
  | .unclosedParenthesis opened found =>
    "unclosed '(' opened at " ++ opened.text ++ "; found '" ++ found.value ++ "'"
  | .integerOutOfRange literal =>
    "integer literal " ++ literal ++ " is out of range"
  | .invalidFloat literal => "invalid float literal " ++ literal
  | .missingRoot => "document must have a root component"
  | .unclosedBlock => "unclosed '\x7b' block"
  | .duplicateImport moduleName =>
    "module '" ++ moduleName ++ "' is already imported"
  | .duplicateAlias name => "alias '@" ++ name ++ "' is already declared"
  | .duplicateObjectKey key => "object key '" ++ key ++ "' is already set"
  | .duplicateProperty key => "property '" ++ key ++ "' is already set"
  | .duplicateSignal event => "signal '" ++ event ++ "' is already bound"
  | .handlerNotText event =>
    "handler for signal '" ++ event ++ "' must be a string literal"
  | .liveSignal event => "signal '" ++ event ++ "' cannot use ':='"
  | .propertyInLoop key => "'each' body cannot set property '" ++ key ++ "'"
  | .signalInLoop event => "'each' body cannot bind signal '" ++ event ++ "'"
  | .nestedTooDeep => "nesting is too deep"

/-- The whole text of an error. -/
def message (error : ParseError) : String :=
  "guml parse error at " ++ error.position.text ++ ": " ++ error.cause.message

/-- A lexical error as an error of the parser. -/
def ofLexError (error : LexError) : ParseError :=
  ⟨.unexpectedCharacter error.char, error.position⟩

end ParseError

end LiveMarkup
