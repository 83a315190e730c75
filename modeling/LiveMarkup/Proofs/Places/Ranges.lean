import LiveMarkup.Proofs.Lexing.Slices
import LiveMarkup.Proofs.Places.Parentheses
import LiveMarkup.Proofs.Spacing.Sources

/-!
# Reading the text under a span

Every expression that is written somewhere in an expression is derived from a
stretch of its tokens.  The text under its span lexes to the tokens under that
span, with other places.  So that text is read as the same expression without
the parentheses around it, up to places, if the parentheses in it are balanced,
and it is refused otherwise.

The text of an operator is unbalanced if its first or its last operand stands in
parentheses, as in `(1 + 2) * 3`: the span of the product begins with the one.
Who cuts a node out of its source, to show it or to write another in its place,
has to count parentheses first; `read_text_of_span` says that this is enough.
-/

namespace LiveMarkup

open Grammar

/-! ## What is written in an expression -/

/--
The expressions directly in an expression that are written in its source.  A
property chain holds the chain before its last name.  The opacity of a color
that has three arguments is not written anywhere; it stands where the color
begins, and a written one behind that.
-/
def Expr.writtenParts : Expr → List Expr
  | .color red green blue alpha span =>
      if alpha.span.start = span.start then [red, green, blue]
        else [red, green, blue, alpha]
  | .reference (.property base _ _) => [.reference base]
  | other => other.parts

/-- An expression, and all that is written in it. -/
inductive Expr.Holds : Expr → Expr → Prop where
  | self (expr : Expr) : expr.Holds expr
  | part {expr part node : Expr} (written : part ∈ expr.writtenParts)
      (holds : part.Holds node) :
      expr.Holds node

theorem Expr.mem_writtenParts_color {red green blue alpha part : Expr}
    {span : Span}
    (written : part ∈ (Expr.color red green blue alpha span).writtenParts) :
    part = red ∨ part = green ∨ part = blue ∨
    part = alpha ∧ alpha.span.start ≠ span.start := by
  rw [writtenParts] at written
  split at written
  · have listed : part = red ∨ part = green ∨ part = blue := by simpa using written
    exact listed.imp_right fun others => others.imp_right .inl
  · next apart => simpa [apart] using written

theorem Expr.writtenParts_inGroup (expr : Expr) :
    expr.inGroup.writtenParts = expr.writtenParts := by
  cases expr <;> rfl

/-- An expression is derived from a stretch of some tokens, and behind no dot. -/
structure Stands (tokens : List Token) (expr : Expr) : Prop where
  parts : ∃ layer earlier own later,
      tokens = earlier ++ (own ++ later) ∧ Undotted earlier ∧
      Derives layer own expr

section Stands

variable {tokens own earlier later : List Token} {token : Token} {layer : Nat}
  {expr : Expr}

theorem Stands.whole (derived : Derives layer tokens expr) : Stands tokens expr :=
  ⟨layer, [], tokens, [], by simp, nofun, derived⟩

theorem Stands.append (stands : Stands tokens expr) (others : List Token) :
    Stands (tokens ++ others) expr := by
  obtain ⟨layer, earlier, own, later, rfl, undotted, derived⟩ := stands.parts
  exact ⟨layer, earlier, own, later ++ others, by simp, undotted, derived⟩

theorem Stands.behind (stands : Stands tokens expr) (undotted : Undotted earlier) :
    Stands (earlier ++ tokens) expr := by
  obtain ⟨layer, between, own, later, rfl, plain, derived⟩ := stands.parts
  exact ⟨layer, earlier ++ between, own, later, by simp,
    undotted.append plain, derived⟩

/-- What stands behind a token that is no dot. -/
theorem Stands.after {kind : TokenKind} (stands : Stands tokens expr)
    (others : List Token) (same : token.kind = kind) (notDot : kind ≠ .dot) :
    Stands (others ++ token :: tokens) expr := by
  rw [List.append_cons]
  refine stands.behind fun other isLast => ?_
  rw [List.getLast?_append, List.getLast?_singleton, Option.some_or] at isLast
  cases isLast
  exact same ▸ notDot

end Stands

namespace Grammar

variable {tokens : List Token} {expr part node : Expr}

/-- The value of an entry stands in the tokens of an object literal. -/
theorem DerivesEntries.stands {tokens : List Token}
    {entries : List (String × Expr)} :
    DerivesEntries tokens entries → part ∈ entries.map Prod.snd →
    Stands tokens part
  | .last key colon _ colonKind derived, member => by
      cases List.mem_singleton.mp member
      exact (Stands.whole derived).after [key] colonKind (by decide)
  | .cons key colon comma _ colonKind commaKind derived othersDerived, member => by
      rcases List.mem_cons.mp member with rfl | member
      · exact ((Stands.whole derived).after [key] colonKind (by decide)).append _
      · exact (othersDerived.stands member).after _ commaKind (by decide)

/-- What is written in an operand stands in its tokens. -/
theorem DerivesAtom.stands (derived : DerivesAtom tokens expr)
    (written : part ∈ expr.writtenParts) : Stands tokens part := by
  cases derived with
  | text token kind => cases written
  | integer token value kind reads => cases written
  | float token value kind reads => cases written
  | boolean token kind => cases written
  | null token kind => cases written
  | reference derived =>
      cases derived with
      | global head kind => cases written
      | aliased head kind => cases written
      | «local» head kind => cases written
      | property derived dot name =>
          cases List.mem_singleton.mp written
          exact (Stands.whole (.atom (.reference derived))).append [dot, name]
  | resource head opening closing headKind openingKind closingKind derived =>
      cases List.mem_singleton.mp written
      exact ((Stands.whole derived).after [head] openingKind (by decide)).append
        [closing]
  | vec2 head opening comma closing headKind openingKind commaKind closingKind
      xDerived yDerived =>
      rcases List.mem_pair.mp written with rfl | rfl
      · exact ((Stands.whole xDerived).after [head] openingKind
          (by decide)).append _ |>.append _
      · exact ((Stands.whole yDerived).after _ commaKind (by decide)).append _
  | solidColor head opening firstComma secondComma closing headKind headValue
      openingKind firstKind secondKind closingKind redDerived greenDerived
      blueDerived =>
      rcases Expr.mem_writtenParts_color written with rfl | rfl | rfl | ⟨-, apart⟩
      · exact ((Stands.whole redDerived).after [head] openingKind
          (by decide)).append _
          |>.append _ |>.append _
      · exact ((Stands.whole greenDerived).after _ firstKind (by decide)).append
          _ |>.append _
      · exact ((Stands.whole blueDerived).after _ secondKind (by decide)).append _
      · exact absurd rfl apart
  | color head opening firstComma secondComma thirdComma closing headKind
      headValue openingKind firstKind secondKind thirdKind closingKind
      redDerived greenDerived blueDerived alphaDerived =>
      rcases Expr.mem_writtenParts_color written with rfl | rfl | rfl | ⟨rfl, -⟩
      · exact ((Stands.whole redDerived).after [head] openingKind
          (by decide)).append _
          |>.append _ |>.append _ |>.append _
      · exact ((Stands.whole greenDerived).after _ firstKind (by decide)).append _
          |>.append _ |>.append _
      · exact ((Stands.whole blueDerived).after _ secondKind (by decide)).append
          _ |>.append _
      · exact ((Stands.whole alphaDerived).after _ thirdKind (by decide)).append _
  | plainStyle box head opening closing => cases written
  | style box head opening closing headKind headValue openingKind
      closingKind derived =>
      cases List.mem_singleton.mp written
      exact ((Stands.whole derived).after [head] openingKind (by decide)).append
        [closing]
  | object opening closing openingKind closingKind derived distinct =>
      exact ((derived.stands written).after [] openingKind (by decide)).append
        [closing]

/-- What is written in an expression stands in its tokens. -/
theorem Derives.stands {layer : Nat} {tokens : List Token} {expr : Expr} :
    Derives layer tokens expr → part ∈ expr.writtenParts → Stands tokens part
  | .infixOp _ _ kind _ leftDerived rightDerived, written => by
      rcases List.mem_pair.mp written with rfl | rfl
      · exact (Stands.whole leftDerived).append _
      · exact (Stands.whole rightDerived).after _ kind (by decide)
  | .tighter _ derived, written => derived.stands written
  | .prefixOp _ _ kind _ derived, written => by
      cases List.mem_singleton.mp written
      exact (Stands.whole derived).after [] kind (by decide)
  | .group _ closing openingKind _ derived, written => by
      rw [Expr.writtenParts_inGroup] at written
      exact ((derived.stands written).after [] openingKind (by decide)).append
        [closing]
  | .atom derived, written => derived.stands written

end Grammar

/-- All that is written in an expression stands in the tokens that it stands in. -/
theorem Expr.Holds.stands {tokens : List Token} {expr node : Expr}
    (holds : expr.Holds node) (stands : Stands tokens expr) :
    Stands tokens node := by
  induction holds with
  | self expr => exact stands
  | part written holds induction =>
      refine induction ?_
      obtain ⟨layer, earlier, own, later, rfl, undotted, derived⟩ := stands.parts
      exact ((derived.stands written).append later).behind undotted

/-! ## Reading a range -/

/-- The text under a span. -/
def Span.text (span : Span) (source : String) : String :=
  String.ofList (source.toList.extract span.start span.stop)

variable {source : String} {tokens others core : List Token} {expr node : Expr}

/-- Tokens of the same kinds and values make up the same expression, up to
places. -/
theorem readTokens_alike
    (same : tokens.map Token.piece = others.map Token.piece) :
    SameReading (fun first second => first.bare = second.bare)
      (Expr.readTokens tokens) (Expr.readTokens others) := by
  have length : tokens.length = others.length := by
    simpa using congrArg List.length same
  rw [Expr.readTokens, Expr.readTokens, length]
  exact (mirrors_soleExpression _ _ _ (matches_ofTokens same)).reading

/-- The text under the span of an expression lexes to the tokens under it. -/
theorem Stands.lexes (stands : Stands tokens node)
    (scans : Scans markupRules [] source.toList tokens []) :
    ∃ own core,
      Under own core node ∧
      Lexes markupRules none (node.span.text source).toList
        (core.map Token.piece) := by
  obtain ⟨layer, earlier, own, later, rfl, undotted, derived⟩ := stands.parts
  obtain ⟨core, under⟩ := derived.under
  refine ⟨own, core, under, ?_⟩
  obtain ⟨opens, closes, rfl, opening, -⟩ := under.parts
  have parts : earlier ++ (opens ++ (core ++ closes) ++ later) =
      (earlier ++ opens) ++ (core ++ (closes ++ later)) := by
    simp only [List.append_assoc]
  rw [parts] at scans
  have plain : Undotted opens := fun token isLast => by
    rw [opening token (List.mem_of_getLast? isLast)]
    decide
  obtain ⟨head, last, isHead, isLast, lexes⟩ :=
    scans.slice (undotted.append plain) under.reaches.ne_nil
  obtain ⟨first, isFirst, start⟩ := under.reaches.first
  obtain ⟨final, isFinal, stop⟩ := under.reaches.last
  cases isHead.symm.trans isFirst
  cases isLast.symm.trans isFinal
  rw [Span.text, String.toList_ofList, start, stop]
  exact lexes

/-- Tokens that make up an expression up to the end of the input are balanced. -/
theorem balanced_of_readTokens {written : List Token} {final : Token}
    (ends : final.kind = .endOfInput)
    (single : ∀ token ∈ written, token.kind ≠ .endOfInput)
    (read : Expr.readTokens (written ++ [final]) = .ok expr) :
    Balanced written := by
  obtain ⟨tokens, upToEnd, derived⟩ := (Expr.readTokens_eq_ok_iff ends).mp read
  rw [← (upToEnd_iff_eq ends single).mp upToEnd]
  exact derived.balanced

/-- Only the kinds and values of tokens matter for their parentheses. -/
theorem balanced_congr (same : tokens.map Token.piece = others.map Token.piece) :
    Balanced tokens ↔ Balanced others := by
  have kinds := congrArg (List.map Prod.fst) same
  rw [List.map_map, List.map_map] at kinds
  exact balanced_iff kinds

/-- What a text is read as that lexes to the tokens under the span of an
expression. -/
structure ReadsAs (text : String) (expr : Expr) (written : List Token) : Prop where
  balanced : Balanced written → ∃ other, Expr.read .none text = .ok other ∧
    other.bare = expr.ungrouped.bare
  unbalanced : ¬ Balanced written → ∃ error, Expr.read .none text = .error error
  plain : expr.isOperator = false → Balanced written

theorem Under.readsAs {text : String} {written : List Token} {final : Token}
    (under : Under tokens core expr)
    (same : written.map Token.piece = core.map Token.piece)
    (lexed : tokenize markupRules text = .ok (written ++ [final]))
    (ends : final.kind = .endOfInput)
    (single : ∀ token ∈ written, token.kind ≠ .endOfInput) :
    ReadsAs text expr written where
  balanced balanced := by
    have derived := under.derived ((balanced_congr same).mp balanced)
    have whole : Expr.readTokens (core ++ [final]) = .ok expr.ungrouped :=
      (Expr.readTokens_eq_ok_iff ends).mpr ⟨core, ⟨[], by simp, ends⟩, derived⟩
    have pieces : (written ++ [final]).map Token.piece =
          (core ++ [final]).map Token.piece := by
      rw [List.map_append, List.map_append, same]
    have alike := readTokens_alike pieces
    rw [whole, ← Expr.read_eq_readTokens lexed] at alike
    cases read : Expr.read .none text with
    | error error =>
        rw [read] at alike
        exact alike.elim
    | ok other =>
        rw [read] at alike
        exact ⟨other, rfl, alike⟩
  unbalanced unbalanced := by
    cases read : Expr.read .none text with
    | error error => exact ⟨error, rfl⟩
    | ok other =>
        rw [Expr.read_eq_readTokens lexed] at read
        exact absurd (balanced_of_readTokens ends single read) unbalanced
  plain operand := (balanced_congr same).mpr (under.plain operand)

/--
The text under the span of an expression that was read, or of one written in it,
is read as the same expression without the parentheses around it, up to places,
exactly if its parentheses are balanced.  They are unless the expression is an
operator.
-/
theorem read_text_of_span (read : Expr.read .none source = .ok expr)
    (holds : expr.Holds node) :
    ∃ written final,
      tokenize markupRules (node.span.text source) = .ok (written ++ [final]) ∧
      final.kind = .endOfInput ∧
      ReadsAs (node.span.text source) node written := by
  rcases scans_of_tokenize markupRules source with
    ⟨tokens, scans, lexed⟩ | ⟨_, _, _, _, -, -, -, failed⟩
  · obtain ⟨own, ⟨remaining, rfl, -⟩, derived⟩ :=
      (Expr.read_eq_ok_iff lexed rfl).mp read
    have stands : Stands (own ++ remaining) expr :=
      (Stands.whole derived).append remaining
    obtain ⟨own, core, under, lexes⟩ := (holds.stands stands).lexes scans
    obtain ⟨found, lexed, pieces⟩ := lexes.tokenize
    obtain ⟨written, final, rfl, same, ends⟩ := tokens_split pieces
    have single : ∀ token ∈ written, token.kind ≠ .endOfInput := by
      intro token member
      refine lexes.ne_endOfInput token.piece ?_
      rw [← same]
      exact List.mem_map_of_mem member
    exact ⟨written, final, lexed, ends, under.readsAs same lexed ends single⟩
  · rw [Expr.read, Parser.run, failed] at read
    cases read

/-- The span of the product in `(1 + 2) * 3`. -/
example : (Span.mk 1 11 ⟨1, 2⟩).text "(1 + 2) * 3" = "1 + 2) * 3" := by
  decide

end LiveMarkup
