import LiveMarkup.Proofs.Places.Expressions

/-!
# Spans leave out parentheses

The span of an operator reaches from its first operand to its last, or from its
sign to its operand; parentheses around an expression belong to no span.  So the
tokens an expression was written in are those under its span with parentheses on
both sides.

If the tokens under the span open and close their parentheses among themselves,
they are an expression of their own: the same one without its parentheses.
Otherwise they are none.  This is the part of `read_text_of_span` that is about
tokens.
-/

namespace LiveMarkup

open Grammar

/-- The parentheses that are open behind a token; none may be closed that was
not opened. -/
def parenthesesStep (opened : Nat) : TokenKind → Option Nat
  | .leftParen => some (opened + 1)
  | .rightParen => if opened = 0 then none else some (opened - 1)
  | _ => some opened

/-- The parentheses that are open behind some tokens. -/
def openBehind (opened : Nat) (tokens : List Token) : Option Nat :=
  (tokens.map Token.kind).foldlM parenthesesStep opened

/-- Tokens that open and close their parentheses among themselves. -/
def Balanced (tokens : List Token) : Prop := openBehind 0 tokens = some 0

instance (tokens : List Token) : Decidable (Balanced tokens) :=
  inferInstanceAs (Decidable (_ = _))

/-- An expression without the parentheses around it. -/
def Expr.ungrouped : Expr → Expr
  | .applyPrefix op right _ span => .applyPrefix op right false span
  | .applyInfix op left right _ span => .applyInfix op left right false span
  | other => other

/-- Whether an expression applies an operator. -/
def Expr.isOperator : Expr → Bool
  | .applyPrefix _ _ _ _ => true
  | .applyInfix _ _ _ _ _ => true
  | _ => false

theorem Expr.ungrouped_inGroup (expr : Expr) :
    expr.inGroup.ungrouped = expr.ungrouped := by
  cases expr <;> rfl

theorem Expr.isOperator_inGroup (expr : Expr) :
    expr.inGroup.isOperator = expr.isOperator := by
  cases expr <;> rfl

variable {opened remained : Nat} {token : Token} {tokens first second : List Token}

/-! ## Counting parentheses -/

@[simp]
theorem openBehind_nil (opened : Nat) : openBehind opened [] = some opened := rfl

@[simp]
theorem openBehind_cons (opened : Nat) (token : Token) (tokens : List Token) :
    openBehind opened (token :: tokens) =
      (parenthesesStep opened token.kind).bind fun next =>
        openBehind next tokens :=
  rfl

@[simp]
theorem openBehind_append (opened : Nat) (first second : List Token) :
    openBehind opened (first ++ second) =
      (openBehind opened first).bind fun next => openBehind next second := by
  rw [openBehind, List.map_append, List.foldlM_append]
  rfl

/-- Only the kinds of tokens matter. -/
theorem balanced_iff (same : first.map Token.kind = second.map Token.kind) :
    Balanced first ↔ Balanced second := by
  rw [Balanced, Balanced, openBehind, openBehind, same]

/-- More open parentheses stay open. -/
theorem openBehind_add (behind : openBehind opened tokens = some remained)
    (more : Nat) :
    openBehind (opened + more) tokens = some (remained + more) := by
  induction tokens generalizing opened with
  | nil =>
      cases behind
      rfl
  | cons token tokens induction =>
      rw [openBehind_cons] at behind ⊢
      obtain ⟨next, step, behind⟩ := Option.bind_eq_some_iff.mp behind
      have further :
          parenthesesStep (opened + more) token.kind = some (next + more) := by
        unfold parenthesesStep at step ⊢
        split at step
        · cases step
          rw [Nat.add_right_comm]
        · split at step
          · cases step
          · next some =>
              cases step
              rw [if_neg (by omega), Nat.sub_add_comm (by omega)]
        · cases step
          rfl
      rw [further]
      exact induction behind

/-- Opening parentheses. -/
theorem openBehind_opens (opens : ∀ token ∈ tokens, token.kind = .leftParen)
    (opened : Nat) :
    openBehind opened tokens = some (opened + tokens.length) := by
  induction tokens generalizing opened with
  | nil => rfl
  | cons token tokens induction =>
      rw [openBehind_cons, opens token (List.mem_cons_self ..), parenthesesStep,
        Option.bind_some, induction fun other member =>
          opens other (List.mem_cons_of_mem _ member), List.length_cons]
      congr 1
      omega

/-- No parenthesis can be closed when none is open. -/
theorem closes_eq_nil (closes : ∀ token ∈ tokens, token.kind = .rightParen)
    (behind : openBehind 0 tokens = some remained) : tokens = [] := by
  cases tokens with
  | nil => rfl
  | cons token tokens =>
      rw [openBehind_cons, closes token (List.mem_cons_self ..),
        parenthesesStep] at behind
      cases behind

/-! ## Derived tokens are balanced -/

namespace Grammar

/-- A reference leaves the count of open parentheses as it is. -/
theorem DerivesReference.openBehind {target : Reference}
    (derived : DerivesReference tokens target) (opened : Nat) :
    LiveMarkup.openBehind opened tokens = some opened := by
  induction derived with
  | global head kind => simp [parenthesesStep, kind]
  | aliased head kind => simp [parenthesesStep, kind]
  | «local» head kind => simp [parenthesesStep, kind]
  | property derived dot name dotKind nameKind induction =>
      simp [parenthesesStep, induction, dotKind, nameKind]

mutual

/-- The tokens of an expression close the parentheses that they open, and no
others. -/
theorem Derives.openBehind {layer : Nat} {tokens : List Token} {expr : Expr}
    (opened : Nat) :
    Derives layer tokens expr →
    LiveMarkup.openBehind opened tokens = some opened
  | .infixOp operator op kind _ leftDerived rightDerived => by
      simp [parenthesesStep, leftDerived.openBehind opened, kind,
        rightDerived.openBehind opened]
  | .tighter _ derived => derived.openBehind opened
  | .prefixOp operator op kind _ derived => by
      simp [parenthesesStep, kind, derived.openBehind opened]
  | .group opening closing openingKind closingKind derived => by
      simp [parenthesesStep, openingKind, derived.openBehind (opened + 1),
        closingKind]
  | .atom derived => derived.openBehind opened

/-- The tokens of an atom close every parenthesis that they open. -/
theorem DerivesAtom.openBehind {tokens : List Token} {expr : Expr} (opened : Nat) :
    DerivesAtom tokens expr → LiveMarkup.openBehind opened tokens = some opened
  | .text _ kind => by simp [parenthesesStep, kind]
  | .integer _ _ kind _ => by simp [parenthesesStep, kind]
  | .float _ _ kind _ => by simp [parenthesesStep, kind]
  | .boolean _ kind => by simp [parenthesesStep, kind]
  | .null _ kind => by simp [parenthesesStep, kind]
  | .reference derived => derived.openBehind opened
  | .resource _ _ _ headKind openingKind closingKind derived => by
      simp [parenthesesStep, headKind, openingKind,
        derived.openBehind (opened + 1), closingKind]
  | .vec2 _ _ _ _ headKind openingKind commaKind closingKind xDerived yDerived => by
      simp [parenthesesStep, headKind, openingKind,
        xDerived.openBehind (opened + 1), commaKind,
        yDerived.openBehind (opened + 1), closingKind]
  | .solidColor _ _ _ _ _ headKind _ openingKind firstKind secondKind
      closingKind redDerived greenDerived blueDerived => by
      simp [parenthesesStep, headKind, openingKind,
        redDerived.openBehind (opened + 1), firstKind,
        greenDerived.openBehind (opened + 1), secondKind,
        blueDerived.openBehind (opened + 1), closingKind]
  | .color _ _ _ _ _ _ headKind _ openingKind firstKind secondKind thirdKind
      closingKind redDerived greenDerived blueDerived alphaDerived => by
      simp [parenthesesStep, headKind, openingKind,
        redDerived.openBehind (opened + 1), firstKind,
        greenDerived.openBehind (opened + 1), secondKind,
        blueDerived.openBehind (opened + 1), thirdKind,
        alphaDerived.openBehind (opened + 1), closingKind]
  | .plainStyle _ _ _ _ headKind _ openingKind closingKind => by
      simp [parenthesesStep, headKind, openingKind, closingKind]
  | .style _ _ _ _ headKind _ openingKind closingKind derived => by
      simp [parenthesesStep, headKind, openingKind,
        derived.openBehind (opened + 1), closingKind]
  | .object _ _ openingKind closingKind derived _ => by
      simp [parenthesesStep, openingKind, derived.openBehind opened, closingKind]

/-- The entries of an object close every parenthesis that they open. -/
theorem DerivesEntries.openBehind {tokens : List Token}
    {entries : List (String × Expr)} (opened : Nat) :
    DerivesEntries tokens entries →
    LiveMarkup.openBehind opened tokens = some opened
  | .nil => rfl
  | .last key colon keyKind colonKind derived => by
      rcases keyKind with kind | kind | kind <;>
        simp [parenthesesStep, kind, colonKind, derived.openBehind opened]
  | .cons key colon comma keyKind colonKind commaKind derived othersDerived => by
      rcases keyKind with kind | kind | kind <;>
        simp [parenthesesStep, kind, colonKind, derived.openBehind opened,
          commaKind, othersDerived.openBehind opened]

end

theorem Derives.balanced {layer : Nat} {tokens : List Token} {expr : Expr}
    (derived : Derives layer tokens expr) : Balanced tokens :=
  derived.openBehind 0

end Grammar

/-! ## The tokens under a span -/

/-- A span reaches from the beginning of the first of some tokens to the end of
the last. -/
structure Reaches (tokens : List Token) (span : Span) : Prop where
  first : ∃ token, tokens.head? = some token ∧ span.start = token.span.start
  last : ∃ token, tokens.getLast? = some token ∧ span.stop = token.span.stop

/--
The tokens under the span of an expression that was written in some tokens: all
but parentheses on both sides.
-/
structure Under (tokens core : List Token) (expr : Expr) : Prop where
  parts : ∃ opens closes,
      tokens = opens ++ (core ++ closes) ∧
      (∀ token ∈ opens, token.kind = .leftParen) ∧
      ∀ token ∈ closes, token.kind = .rightParen
  reaches : Reaches core expr.span
  derived : Balanced core → Derives 0 core expr.ungrouped
  plain : expr.isOperator = false → Balanced core

namespace Reaches

variable {left right : Span} {core others : List Token}

theorem single (token : Token) : Reaches [token] token.span where
  first := ⟨token, rfl, rfl⟩
  last := ⟨token, rfl, rfl⟩

/-- The span through two operands reaches from the core of the one to the core
of the other. -/
theorem through (leftReaches : Reaches core left)
    (rightReaches : Reaches others right) (between : List Token) :
    Reaches (core ++ (between ++ others)) (left.through right) where
  first := by
    obtain ⟨token, isFirst, same⟩ := leftReaches.first
    exact ⟨token, by rw [List.head?_append, isFirst, Option.some_or], same⟩
  last := by
    obtain ⟨token, isLast, same⟩ := rightReaches.last
    refine ⟨token, ?_, same⟩
    rw [List.getLast?_append, List.getLast?_append, isLast, Option.some_or,
      Option.some_or]

theorem enclosed (head : Token) (tokens : List Token) (closing : Token) :
    Reaches (head :: tokens ++ [closing]) (head.span.through closing.span) :=
  (single head).through (single closing) tokens

theorem ne_nil (reaches : Reaches core left) : core ≠ [] := by
  rintro rfl
  obtain ⟨token, isFirst, -⟩ := reaches.first
  cases isFirst

end Reaches

namespace Grammar

variable {tokens core leftTokens rightTokens leftCore rightCore : List Token}
  {expr left right : Expr}
  {target : Reference}

/-- The span of a reference reaches over all of its tokens. -/
theorem DerivesReference.reaches (derived : DerivesReference tokens target) :
    Reaches tokens target.span := by
  induction derived with
  | global head kind => exact .single head
  | aliased head kind => exact .single head
  | «local» head kind => exact .single head
  | property derived dot name dotKind nameKind induction =>
    exact induction.through (.single name) [dot]

/-- The span of an atom reaches over all tokens that its parentheses leave. -/
theorem DerivesAtom.reaches (derived : DerivesAtom tokens expr) :
    Reaches tokens expr.span := by
  cases derived with
  | reference derived => exact derived.reaches
  | text token kind => exact .single token
  | integer token value kind reads => exact .single token
  | float token value kind reads => exact .single token
  | boolean token kind => exact .single token
  | null token kind => exact .single token
  | resource head opening closing => exact .enclosed head _ closing
  | vec2 head opening comma closing => exact .enclosed head _ closing
  | solidColor head opening firstComma secondComma closing =>
    exact .enclosed head _ closing
  | color head opening firstComma secondComma thirdComma closing =>
    exact .enclosed head _ closing
  | plainStyle box head opening closing => exact .enclosed head [opening] closing
  | style box head opening closing => exact .enclosed head _ closing
  | object opening closing => exact .enclosed opening _ closing

theorem DerivesAtom.ungrouped (derived : DerivesAtom tokens expr) :
    expr.ungrouped = expr := by
  cases derived <;> rfl

/-! ### Operators -/

/-- Nothing is left to close behind balanced tokens. -/
theorem closes_eq_nil_of_balanced {first closes : List Token}
    (closing : ∀ token ∈ closes, token.kind = .rightParen)
    (balanced : Balanced first) (whole : Balanced (first ++ closes)) :
    closes = [] := by
  rw [Balanced, openBehind_append, balanced, Option.bind_some] at whole
  exact closes_eq_nil closing whole

/-- What balanced tokens begin with does not close parentheses that were opened
before it. -/
theorem opens_eq_nil_of_balanced {opens first second : List Token}
    (opening : ∀ token ∈ opens, token.kind = .leftParen)
    (balanced : Balanced (opens ++ first))
    (whole : Balanced (first ++ second)) : opens = [] := by
  rw [Balanced, openBehind_append] at whole
  obtain ⟨remained, behind, -⟩ := Option.bind_eq_some_iff.mp whole
  rw [Balanced, openBehind_append, openBehind_opens opening, Option.bind_some,
    openBehind_add behind, Option.some_inj] at balanced
  exact List.length_eq_zero_iff.mp (by omega)

theorem under_infixOp {operator : Token} {op : InfixOp}
    (kind : operator.kind = .operator)
    (symbol : InfixOp.ofSymbol? operator.value = some op)
    (leftDerived : Derives (layerOf op) leftTokens left)
    (rightDerived : Derives (layerOf op + 1) rightTokens right)
    (leftUnder : Under leftTokens leftCore left)
    (rightUnder : Under rightTokens rightCore right) :
    ∃ core,
      Under (leftTokens ++ operator :: rightTokens) core
        (.applyInfix op left right false (left.span.through right.span)) := by
  have whole :=
    (Derives.infixOp operator op kind symbol leftDerived rightDerived).loosen
      (Nat.zero_le _) (Nat.le_of_lt (layerOf_lt_prefixLayer op))
  have balanced := whole.balanced
  obtain ⟨leftOpens, leftCloses, rfl, leftOpening, leftClosing⟩ := leftUnder.parts
  obtain ⟨rightOpens, rightCloses, rfl, rightOpening, rightClosing⟩ :=
    rightUnder.parts
  let between := leftCloses ++ operator :: rightOpens
  refine ⟨leftCore ++ (between ++ rightCore),
    ⟨leftOpens, rightCloses, by simp [between], leftOpening, rightClosing⟩,
    leftUnder.reaches.through rightUnder.reaches between, fun core => ?_, nofun⟩
  have noOpens : leftOpens = [] := by
    refine opens_eq_nil_of_balanced leftOpening leftDerived.balanced
      (show Balanced (leftCore ++ leftCloses ++
        (operator :: rightOpens ++ rightCore)) from ?_)
    simpa [between] using core
  subst noOpens
  have noCloses : rightCloses = [] :=
    closes_eq_nil_of_balanced rightClosing core (by simpa [between] using balanced)
  subst noCloses
  simpa [between, Expr.ungrouped] using whole

theorem under_prefixOp {operator : Token} {op : PrefixOp}
    (kind : operator.kind = .operator)
    (symbol : PrefixOp.ofSymbol? operator.value = some op)
    (derived : Derives prefixLayer rightTokens right)
    (under : Under rightTokens rightCore right) :
    ∃ core,
      Under (operator :: rightTokens) core
        (.applyPrefix op right false (operator.span.through right.span)) := by
  have whole :=
    (Derives.prefixOp operator op kind symbol derived).loosen (Nat.zero_le _)
      (Nat.le_refl _)
  have balanced := whole.balanced
  obtain ⟨opens, closes, rfl, -, closing⟩ := under.parts
  refine ⟨[operator] ++ (opens ++ rightCore), ⟨[], closes, by simp, nofun, closing⟩,
    (Reaches.single operator).through under.reaches opens, fun core => ?_, nofun⟩
  have noCloses : closes = [] :=
    closes_eq_nil_of_balanced closing core (by simpa using balanced)
  subst noCloses
  simpa [Expr.ungrouped] using whole

/-- Parentheses around an expression add to those on both sides of the tokens
under its span. -/
theorem under_group {opening closing : Token}
    (openingKind : opening.kind = .leftParen)
    (closingKind : closing.kind = .rightParen)
    (under : Under tokens core expr) :
    Under (opening :: tokens ++ [closing]) core expr.inGroup where
  parts := by
    obtain ⟨opens, closes, rfl, opensKind, closesKind⟩ := under.parts
    refine ⟨opening :: opens, closes ++ [closing], by simp, ?_, ?_⟩
    · exact List.forall_mem_cons.mpr ⟨openingKind, opensKind⟩
    · exact List.forall_mem_append.mpr
        ⟨closesKind, List.forall_mem_singleton.mpr closingKind⟩
  reaches := by
    rw [Expr.span_inGroup]
    exact under.reaches
  derived := by
    rw [Expr.ungrouped_inGroup]
    exact under.derived
  plain := by
    rw [Expr.isOperator_inGroup]
    exact under.plain

theorem under_atom (derived : DerivesAtom tokens expr) :
    Under tokens tokens expr where
  parts := ⟨[], [], by simp, nofun, nofun⟩
  reaches := derived.reaches
  derived _ := by
    rw [derived.ungrouped]
    exact (Derives.atom derived).loosen (Nat.zero_le _) (Nat.le_refl _)
  plain _ := (Derives.atom derived).balanced

/-- The tokens of an expression are those under its span and parentheses on both
sides. -/
theorem Derives.under {layer : Nat} {tokens : List Token} {expr : Expr} :
    Derives layer tokens expr → ∃ core, Under tokens core expr
  | .infixOp _ _ kind symbol leftDerived rightDerived => by
      obtain ⟨leftCore, leftUnder⟩ := leftDerived.under
      obtain ⟨rightCore, rightUnder⟩ := rightDerived.under
      exact under_infixOp kind symbol leftDerived rightDerived leftUnder rightUnder
  | .tighter _ derived => derived.under
  | .prefixOp _ _ kind symbol derived => by
      obtain ⟨core, under⟩ := derived.under
      exact under_prefixOp kind symbol derived under
  | .group _ _ openingKind closingKind derived => by
      obtain ⟨core, under⟩ := derived.under
      exact ⟨core, under_group openingKind closingKind under⟩
  | .atom derived => ⟨_, under_atom derived⟩

end Grammar

end LiveMarkup
