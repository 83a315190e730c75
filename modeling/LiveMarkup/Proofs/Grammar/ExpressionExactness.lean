import LiveMarkup.Proofs.Grammar.ExpressionCompleteness

/-!
# The expression parser is exact

Soundness and completeness together: the parser returns an expression exactly
if the grammar derives it from the tokens that were passed and the next token
cannot extend it.  The tree of a derivation is therefore unique, and its right
operands bind as tightly as the layers demand.
-/

namespace LiveMarkup.Grammar

/-! ## What is returned -/

/-- The parser returns exactly what the grammar derives. -/
theorem expression_eq_ok_iff {depth : Nat} {stream rest : TokenStream} {expr : Expr}
    (ends : stream.final.kind = .endOfInput)
    (enough : 2 * stream.upcoming.length + 1 < depth) :
    Parser.expression .none depth stream = .ok (expr, rest) ↔
      ∃ tokens remaining,
        stream.upcoming = tokens ++ remaining ∧ Derives 0 tokens expr ∧
          CannotExtend tokens (remaining.headD stream.final) ∧
            rest = stream.pass tokens remaining := by
  constructor
  · intro parsed
    obtain ⟨tokens, passes, derived, stops⟩ := (sound depth).expression ends parsed
    refine ⟨tokens, rest.upcoming, passes.upcoming, derived, ?_, passes.rest_eq⟩
    rw [← passes.final]
    exact stops
  · rintro ⟨tokens, remaining, upcoming, derived, stops, rfl⟩
    have shorter : tokens.length ≤ stream.upcoming.length := by
      rw [upcoming, List.length_append]
      exact Nat.le_add_right _ _
    exact derived.reads.expression depth stream remaining (by omega) upcoming stops

/-- Tokens derive at most one expression. -/
theorem Derives.unique {tokens : List Token} {first second : Expr}
    (firstDerived : Derives 0 tokens first)
    (secondDerived : Derives 0 tokens second) : first = second := by
  let stream : TokenStream :=
    { upcoming := tokens, final := ⟨.endOfInput, "", ⟨0, 0, ⟨1, 1⟩⟩⟩,
      lastStop := 0, aliases := [] }
  have read {expr : Expr} (derived : Derives 0 tokens expr) :
      Parser.expression .none (2 * tokens.length + 2) stream =
        .ok (expr, stream.pass tokens []) :=
    derived.reads.expression _ stream [] (Nat.lt_succ_self _) (by simp [stream])
      (cannotExtend_of_kind (by simp [stream]))
  have equal := (read firstDerived).symm.trans (read secondDerived)
  cases equal
  rfl

/-! ## Right operands -/

/-- An operator outside of parentheses is of a layer, or tighter. -/
def OpenFrom (layer : Nat) (expr : Expr) : Prop :=
  ∀ precedence ∈ openPrecedence? expr,
    (∀ op, layerOf op < layer → op.precedence < precedence) ∧
      (layer = prefixLayer → PrefixOp.precedence ≤ precedence)

/-- An infix operator outside of parentheses is of its own layer. -/
theorem openFrom_infixOp (op : InfixOp) (left right : Expr) (span : Span) :
    OpenFrom (layerOf op) (.applyInfix op left right false span) := by
  intro precedence isPrecedence
  cases isPrecedence
  constructor
  · intro other looser
    exact (precedence_lt_iff other op).mpr looser
  · intro equal
    exact absurd equal (Nat.ne_of_lt (layerOf_lt_prefixLayer op))

/-- A prefix operator is of the layer of prefix operators. -/
theorem openFrom_prefixOp (op : PrefixOp) (right : Expr) (span : Span) :
    OpenFrom prefixLayer (.applyPrefix op right false span) := by
  intro precedence isPrecedence
  cases isPrecedence
  constructor
  · intro other _
    exact InfixOp.precedence_lt_prefixOp other
  · intro _
    exact Nat.le_refl _

/-- What is of a layer or tighter is so for the looser layer before it. -/
theorem OpenFrom.loosen {layer : Nat} {expr : Expr}
    (openFrom : OpenFrom (layer + 1) expr) (below : layer < prefixLayer) :
    OpenFrom layer expr := by
  intro precedence isPrecedence
  obtain ⟨looser, -⟩ := openFrom precedence isPrecedence
  constructor
  · intro op less
    exact looser op (Nat.lt_succ_of_lt less)
  · intro equal
    exact absurd equal (Nat.ne_of_lt below)

/-- An expression without an operator outside of parentheses is of every layer. -/
theorem openFrom_of_none {layer : Nat} {expr : Expr}
    (none : openPrecedence? expr = none) : OpenFrom layer expr := by
  intro precedence isPrecedence
  rw [none] at isPrecedence
  cases isPrecedence

theorem openPrecedence?_inGroup (expr : Expr) :
    openPrecedence? expr.inGroup = none := by
  cases expr <;> rfl

theorem DerivesAtom.openPrecedence? {tokens : List Token} {expr : Expr}
    (derived : DerivesAtom tokens expr) : Grammar.openPrecedence? expr = none := by
  cases derived <;> rfl

theorem Everywhere.inGroup {expr : Expr}
    (everywhere : Everywhere RightOperandBinds expr) :
    Everywhere RightOperandBinds expr.inGroup := by
  cases expr <;> exact everywhere

theorem everywhere_infixOp {op : InfixOp} {left right : Expr} {span : Span}
    (leftBinds : Everywhere RightOperandBinds left)
    (rightBinds : Everywhere RightOperandBinds right)
    (openFrom : OpenFrom (layerOf op + 1) right) :
    Everywhere RightOperandBinds (.applyInfix op left right false span) := by
  refine ⟨?_, leftBinds, rightBinds⟩
  intro precedence isPrecedence
  exact (openFrom precedence isPrecedence).1 op (Nat.lt_succ_self _)

theorem everywhere_prefixOp {op : PrefixOp} {right : Expr} {span : Span}
    (rightBinds : Everywhere RightOperandBinds right)
    (openFrom : OpenFrom prefixLayer right) :
    Everywhere RightOperandBinds (.applyPrefix op right false span) := by
  refine ⟨?_, rightBinds⟩
  intro precedence isPrecedence
  exact (openFrom precedence isPrecedence).2 rfl

mutual

/--
Every right operand of a derived expression binds as tightly as its operator
demands, and the expression itself as tightly as its layer.
-/
theorem Derives.binds {layer : Nat} {tokens : List Token} {expr : Expr} :
    Derives layer tokens expr →
    Everywhere RightOperandBinds expr ∧ OpenFrom layer expr
  | .infixOp _ op _ _ leftDerived rightDerived =>
      ⟨everywhere_infixOp leftDerived.binds.1 rightDerived.binds.1
        rightDerived.binds.2, openFrom_infixOp op _ _ _⟩
  | .tighter below derived => ⟨derived.binds.1, derived.binds.2.loosen below⟩
  | .prefixOp _ op _ _ derived =>
      ⟨everywhere_prefixOp derived.binds.1 derived.binds.2,
        openFrom_prefixOp op _ _⟩
  | .group _ _ _ _ derived =>
      ⟨derived.binds.1.inGroup, openFrom_of_none (openPrecedence?_inGroup _)⟩
  | .atom derived => ⟨derived.binds, openFrom_of_none derived.openPrecedence?⟩

/-- Everywhere in an atom right operands bind tighter than their operators. -/
theorem DerivesAtom.binds {tokens : List Token} {expr : Expr} :
    DerivesAtom tokens expr → Everywhere RightOperandBinds expr
  | .text .. => trivial
  | .integer .. => trivial
  | .float .. => trivial
  | .boolean .. => trivial
  | .null .. => trivial
  | .reference _ => trivial
  | .resource _ _ _ _ _ _ derived => ⟨trivial, derived.binds.1⟩
  | .vec2 _ _ _ _ _ _ _ _ xDerived yDerived =>
      ⟨trivial, xDerived.binds.1, yDerived.binds.1⟩
  | .solidColor _ _ _ _ _ _ _ _ _ _ _ redDerived greenDerived blueDerived =>
      ⟨trivial, redDerived.binds.1, greenDerived.binds.1,
        blueDerived.binds.1, trivial⟩
  | .color _ _ _ _ _ _ _ _ _ _ _ _ _ redDerived greenDerived blueDerived
      alphaDerived =>
      ⟨trivial, redDerived.binds.1, greenDerived.binds.1,
        blueDerived.binds.1, alphaDerived.binds.1⟩
  | .plainStyle .. => trivial
  | .style _ _ _ _ _ _ _ _ derived => ⟨trivial, derived.binds.1⟩
  | .object _ _ _ _ derived _ => ⟨trivial, derived.binds⟩

theorem DerivesEntries.binds {tokens : List Token}
    {entries : List (String × Expr)} :
    DerivesEntries tokens entries → EverywhereIn RightOperandBinds entries
  | .nil => trivial
  | .last _ _ _ _ derived => ⟨derived.binds.1, trivial⟩
  | .cons _ _ _ _ _ _ derived othersDerived =>
      ⟨derived.binds.1, othersDerived.binds⟩

end

/-! ## Exactness -/

/--
The expression parser equals the layered grammar.  On every token stream, with
a bound on nesting that lets it read all upcoming tokens (`Parser.depthFor` is
larger), it returns an expression and a rest exactly if the tokens between
derive that expression and the next token cannot extend them; otherwise it
returns an error.  The expression is the only one those tokens derive, an
operator without parentheses is a right operand only of a looser infix
operator or, if it is a prefix operator, of another prefix operator.
-/
theorem expression_exact {depth : Nat} {stream : TokenStream}
    (ends : stream.final.kind = .endOfInput)
    (enough : 2 * stream.upcoming.length + 1 < depth) :
    (∀ expr rest,
      Parser.expression .none depth stream = .ok (expr, rest) ↔
        ∃ tokens remaining,
          stream.upcoming = tokens ++ remaining ∧ Derives 0 tokens expr ∧
            CannotExtend tokens (remaining.headD stream.final) ∧
              rest = stream.pass tokens remaining) ∧
    ((¬ ∃ tokens remaining expr,
        stream.upcoming = tokens ++ remaining ∧ Derives 0 tokens expr ∧
          CannotExtend tokens (remaining.headD stream.final)) →
      ∃ error, Parser.expression .none depth stream = .error error) ∧
    (∀ tokens first second,
      Derives 0 tokens first → Derives 0 tokens second → first = second) ∧
    (∀ expr rest,
      Parser.expression .none depth stream = .ok (expr, rest) →
        Everywhere RightOperandBinds expr) := by
  refine ⟨fun expr rest => expression_eq_ok_iff ends enough, ?_,
    fun tokens first second => Derives.unique, ?_⟩
  · intro underivable
    cases parsed : Parser.expression .none depth stream with
    | error error => exact ⟨error, rfl⟩
    | ok result =>
        obtain ⟨tokens, remaining, upcoming, derived, stops, -⟩ :=
          (expression_eq_ok_iff ends enough).mp parsed
        exact absurd ⟨tokens, remaining, result.1, upcoming, derived,
          stops⟩ underivable
  · intro expr rest parsed
    obtain ⟨tokens, remaining, -, derived, -⟩ :=
      (expression_eq_ok_iff ends enough).mp parsed
    exact derived.binds.1

/-- A name that is negated twice, `!!x`. -/
def twiceNegated : TokenStream :=
  { upcoming :=
      [⟨.operator, "!", ⟨0, 1, ⟨1, 1⟩⟩⟩, ⟨.operator, "!", ⟨1, 2, ⟨1, 2⟩⟩⟩,
        ⟨.name, "x", ⟨2, 3, ⟨1, 3⟩⟩⟩]
    final := ⟨.endOfInput, "", ⟨3, 3, ⟨1, 4⟩⟩⟩
    lastStop := 0
    aliases := [] }

/-- The tree of `!!x`. -/
def twiceNegatedTree : Expr :=
  .applyPrefix .not (.applyPrefix .not (.reference (.local "x" ⟨2, 3, ⟨1, 3⟩⟩))
    false ⟨1, 3, ⟨1, 2⟩⟩) false ⟨0, 3, ⟨1, 1⟩⟩

/-- The doubled sign is read, for a prefix operator takes another one as its
operand. -/
theorem expression_exact_twiceNegated :
    twiceNegated.final.kind = .endOfInput ∧
      2 * twiceNegated.upcoming.length + 1 < Parser.depthFor 4 ∧
        Parser.expression .none (Parser.depthFor 4) twiceNegated =
          .ok (twiceNegatedTree, twiceNegated.pass twiceNegated.upcoming []) := by
  have operand : Derives prefixLayer [⟨.name, "x", ⟨2, 3, ⟨1, 3⟩⟩⟩]
      (.reference (.local "x" ⟨2, 3, ⟨1, 3⟩⟩)) :=
    .atom (.reference (.local _ rfl))
  have derived : Derives prefixLayer twiceNegated.upcoming twiceNegatedTree :=
    .prefixOp _ .not rfl rfl (.prefixOp _ .not rfl rfl operand)
  refine ⟨rfl, by decide, ?_⟩
  exact ((expression_exact rfl (by decide)).1 _ _).mpr
    ⟨twiceNegated.upcoming, [], rfl, derived.loosen (Nat.zero_le _) (Nat.le_refl _),
      ⟨by decide, by decide, by decide⟩, rfl⟩

/-- The right operand of an operator binds tighter than the operator, or is in
parentheses. -/
def RightOperandTighter : Expr → Prop
  | .applyPrefix _ right _ _ =>
      ∀ precedence ∈ openPrecedence? right, PrefixOp.precedence < precedence
  | .applyInfix op _ right _ _ =>
      ∀ precedence ∈ openPrecedence? right, op.precedence < precedence
  | _ => True

/-- A prefix operator may stand, without parentheses, in the operand of another
one. -/
theorem twiceNegated_not_tighter :
    (Parser.expression .none (Parser.depthFor 4) twiceNegated).map Prod.fst =
        .ok twiceNegatedTree ∧
      ¬ Everywhere RightOperandTighter twiceNegatedTree := by
  constructor
  · rfl
  · intro everywhere
    exact absurd (everywhere.1 PrefixOp.precedence rfl) (Nat.lt_irrefl _)

end LiveMarkup.Grammar
