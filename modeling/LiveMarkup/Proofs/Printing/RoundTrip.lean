import Mathlib
import LiveMarkup.Proofs.Grammar.DocumentExactness
import LiveMarkup.Proofs.Printing.Reprinting

/-!
# Reading back what is printed

A source text that is read as an expression, its printed form, and what is read
from that form.  The step from the first tree to the second goes through the
grammar in both directions: the tokens of the source derive the tree, and the
tokens of the printed form derive a tree that is the same up to places.
-/

namespace LiveMarkup

open Grammar

/-! ## Reading one expression -/

/-- The expression that some tokens make up. -/
def Expr.readTokens (tokens : List Token) : Except ParseError Expr :=
  (Parser.soleExpression .none (Parser.depthFor tokens.length)
    (.ofTokens tokens)).map Prod.fst

/-- A source text is read as the expression that its tokens make up. -/
theorem Expr.read_eq_readTokens {source : String} {tokens : List Token}
    (lexed : tokenize markupRules source = .ok tokens) :
    Expr.read .none source = Expr.readTokens tokens := by
  have unconverted : tokens.map Converters.none.token = tokens := List.map_id _
  simp only [Expr.read, Parser.run, lexed, unconverted]
  rfl

/-- Reading a list of tokens gives exactly the expressions that the grammar
derives from it. -/
theorem Expr.readTokens_eq_ok_iff {written : List Token} {final : Token}
    {expr : Expr} (ends : final.kind = .endOfInput) :
    Expr.readTokens (written ++ [final]) = .ok expr ↔
      ∃ tokens, UpToEnd written final tokens ∧ Derives 0 tokens expr := by
  let stream : TokenStream :=
    { upcoming := written, final, lastStop := 0, aliases := [] }
  let depth := Parser.depthFor (written ++ [final]).length
  have starts : TokenStream.ofTokens (written ++ [final]) = stream := by
    simp [stream, TokenStream.ofTokens]
  have enough : 2 * stream.upcoming.length + 1 < depth := by
    simp only [stream, depth, Parser.depthFor, List.length_append,
      List.length_singleton]
    omega
  rw [readTokens, starts]
  constructor
  · intro read
    cases parsed : Parser.soleExpression .none depth stream with
    | error error =>
      rw [parsed] at read
      cases read
    | ok result =>
      rw [parsed] at read
      cases read
      obtain ⟨expression, atEnd⟩ := Parser.soleExpression_eq_ok.mp parsed
      obtain ⟨tokens, remaining, upcoming, derived, -, rest⟩ :=
        (expression_eq_ok_iff ends enough).mp expression
      rw [rest, TokenStream.pass_head] at atEnd
      exact ⟨tokens, ⟨remaining, upcoming, atEnd⟩, derived⟩
  · rintro ⟨tokens, ⟨remaining, upcoming, atEnd⟩, derived⟩
    have stops : CannotExtend tokens (remaining.headD stream.final) :=
      cannotExtend_of_kind (by rw [atEnd]; decide)
    have expression := (expression_eq_ok_iff ends enough).mpr
      ⟨tokens, remaining, upcoming, derived, stops, rfl⟩
    rw [Parser.soleExpression_eq_ok.mpr ⟨expression, atEnd⟩]
    rfl

/-- A source text is read as an expression exactly if its tokens, up to the end
of the input, derive it. -/
theorem Expr.read_eq_ok_iff {source : String} {written : List Token}
    {final : Token} {expr : Expr}
    (lexed : tokenize markupRules source = .ok (written ++ [final]))
    (ends : final.kind = .endOfInput) :
    Expr.read .none source = .ok expr ↔
      ∃ tokens, UpToEnd written final tokens ∧ Derives 0 tokens expr := by
  rw [read_eq_readTokens lexed]
  exact readTokens_eq_ok_iff ends

/-! ## Object keys -/

/-- No object key is written as a string: no string stands before a colon. -/
def KeysBare (tokens : List Token) : Prop :=
  tokens.IsChain fun key next => key.kind = .text → next.kind ≠ .colon

instance (tokens : List Token) : Decidable (KeysBare tokens) :=
  inferInstanceAs (Decidable (tokens.IsChain _))

theorem KeysBare.named {tokens : List Token} (keysBare : KeysBare tokens) :
    KeysNamed tokens := by
  refine List.IsChain.imp ?_ keysBare
  intro _ _ bare isText isColon
  exact absurd isColon (bare isText)

/-! ## Round trip -/

/-- The last token of a source text is the end of the input. -/
theorem tokens_split {tokens : List Token}
    {pieces : List (TokenKind × String)}
    (same : tokens.map Token.piece = pieces ++ [(.endOfInput, "")]) :
    ∃ written final,
      tokens = written ++ [final] ∧ written.map Token.piece = pieces ∧
      final.kind = .endOfInput := by
  obtain ⟨written, last, rfl, first, second⟩ := map_piece_append same
  obtain ⟨final, rest, rfl, kind, -, nothing⟩ := map_piece_cons second
  cases map_piece_nil nothing
  exact ⟨written, final, rfl, first, kind⟩

/-- A text that prints a tree is read as that tree, up to places and the
spelling of texts. -/
theorem Grammar.Prints.read {expr : Expr} {pieces : List (TokenKind × String)}
    (prints : Prints expr pieces) :
    ∃ other,
      Expr.read .none expr.print = .ok other ∧
      other.bare = expr.respelled.bare := by
  have lexes := prints.lexes none [] [] nofun goes_nil
  rw [List.append_nil, List.append_nil, ← @String.toList_ofList expr.chars] at lexes
  obtain ⟨tokens, lexed, same⟩ := lexes.tokenize
  obtain ⟨written, final, rfl, pieces, ends⟩ := tokens_split same
  obtain ⟨other, derived, bare⟩ := prints.derivesIn (Nat.zero_le _) pieces
  exact ⟨other, (Expr.read_eq_ok_iff lexed ends).mpr
    ⟨written, ⟨[], (List.append_nil _).symm, ends⟩, derived⟩, bare⟩

/-- The printed form of an expression that was read is read again, if its
floating-point numbers read back and the strings among its object keys are
names.  The tree is the same but for the places, and for the characters of texts
that are shown by their code points: those come back as they were shown. -/
theorem read_print_respelled {source : String} {expr : Expr}
    (read : Expr.read .none source = .ok expr)
    (floats : Everywhere FloatReadsBack expr)
    (named :
      ∀ tokens, tokenize markupRules source = .ok tokens → KeysNamed tokens) :
    ∃ other,
      Expr.read .none expr.print = .ok other ∧
      other.bare = expr.respelled.bare := by
  cases lexed : tokenize markupRules source with
  | error error =>
    rw [Expr.read, Parser.run, lexed] at read
    cases read
  | ok tokens =>
    obtain ⟨pieces, same, spelled⟩ := spelled_of_tokenize lexed
    obtain ⟨written, final, rfl, rfl, ends⟩ := tokens_split same
    obtain ⟨tokens, ⟨remaining, rfl, -⟩, derived⟩ :=
      (Expr.read_eq_ok_iff lexed ends).mp read
    rw [List.map_append, Spelled, chained_append] at spelled
    have apart : (none : Option TokenKind) ≠ some .dot :=
      Option.some_ne_none _ |>.symm
    obtain ⟨-, pieces, prints⟩ :=
      derived.prints apart spelled.1 (named _ lexed).left.left floats
    exact prints.read

/-- The printed form of an expression that was read is read again, and as the
same tree but for the places.  The strings of the expression hold only
characters that are shown as themselves or by a short escape, its floating-point
numbers are finite and read back from their decimals, and none of its object
keys is written as a string. -/
theorem read_print {source : String} {expr : Expr}
    (read : Expr.read .none source = .ok expr)
    (faithful : Everywhere PrintsFaithfully expr)
    (keysBare :
      ∀ tokens, tokenize markupRules source = .ok tokens → KeysBare tokens) :
    ∃ other,
      Expr.read .none expr.print = .ok other ∧ other.bare = expr.bare := by
  obtain ⟨other, again, bare⟩ :=
    read_print_respelled read (faithful.imp fun _ plain => plain.floatReadsBack)
      fun tokens lexed => (keysBare tokens lexed).named
  rw [faithful.respelled] at bare
  exact ⟨other, again, bare⟩

/-- An expression with operators, a property chain with a capitalised name, and
an object whose last entry is followed by a comma. -/
def styledSource : String :=
  "! -a.Tail*(2+3) == style_flat(\x7bkey:\"a\\n\", Key:$x,\x7d)"

/-- The tree of that expression. -/
def styledTree : Expr :=
  .applyInfix .eq
    (.applyInfix .mul
      (.applyPrefix .not
        (.applyPrefix .minus
          (.reference
            (.property (.local "a" ⟨3, 4, ⟨1, 4⟩⟩) "Tail" ⟨3, 9, ⟨1, 4⟩⟩))
          false ⟨2, 9, ⟨1, 3⟩⟩)
        false ⟨0, 9, ⟨1, 1⟩⟩)
      (.applyInfix .add (.int 2 ⟨11, 12, ⟨1, 12⟩⟩) (.int 3 ⟨13, 14, ⟨1, 14⟩⟩) true
        ⟨11, 14, ⟨1, 12⟩⟩)
      false ⟨0, 14, ⟨1, 1⟩⟩)
    (.style .flat
      (some (.object
        [("key", .text "a\n" ⟨35, 40, ⟨1, 36⟩⟩),
          ("Key", .reference (.global "$x" ⟨46, 48, ⟨1, 47⟩⟩))]
        ⟨30, 50, ⟨1, 31⟩⟩))
      ⟨19, 51, ⟨1, 20⟩⟩)
    false ⟨0, 51, ⟨1, 1⟩⟩

theorem tokenize_styledSource :
    (tokenize markupRules styledSource).map
      (fun tokens => decide (KeysBare tokens)) = .ok true := by
  cbv

/-- A style box with an object, read and printed, gives the same tree when it is
read again. -/
theorem read_print_styledSource :
    Expr.read .none styledSource = .ok styledTree ∧
    Everywhere PrintsFaithfully styledTree ∧
    (∀ tokens,
      tokenize markupRules styledSource = .ok tokens → KeysBare tokens) ∧
    ∃ other,
      Expr.read .none styledTree.print = .ok other ∧
      other.bare = styledTree.bare := by
  have read : Expr.read .none styledSource = .ok styledTree := by cbv
  have faithful : Everywhere PrintsFaithfully styledTree := by
    simp only [styledTree, Everywhere, EverywhereIn, PrintsFaithfully,
      true_and, and_true]
    intro char member
    have isOne : char = 'a' ∨ char = '\n' := by simpa using member
    rcases isOne with rfl | rfl
    · exact .inl (by decide)
    · exact .inr (by decide)
  have keysBare : ∀ tokens,
      tokenize markupRules styledSource = .ok tokens → KeysBare tokens := by
    intro tokens lexed
    have checked := tokenize_styledSource
    rw [lexed] at checked
    exact of_decide_eq_true (Except.ok.inj checked)
  exact ⟨read, faithful, keysBare, read_print read faithful keysBare⟩

example :
    styledTree.print =
      "!-a.Tail * (2 + 3) == style_flat(\x7b key: \"a\\n\", Key: $x \x7d)" := by
  decide

end LiveMarkup
