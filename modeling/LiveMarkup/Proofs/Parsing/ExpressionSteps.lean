import LiveMarkup.Expr.Parser
import LiveMarkup.Proofs.Parsing.Steps

/-!
# Single steps of the expression parser

What the expression parser does with the next token, one equation for each
kind of token and each state of the level that is being read.
-/

namespace LiveMarkup

@[simp]
theorem Converters.none_key (key : String) : Converters.none.key key = key := rfl

@[simp]
theorem Converters.none_value (expr : Expr) :
    Converters.none.value expr = expr :=
  rfl

/-- Without converters a value is the expression that was read. -/
@[simp]
theorem Converters.none_value_map (parser : Parser Expr) :
    Converters.none.value <$> parser = parser :=
  id_map parser

@[simp]
theorem Converters.none_component (component : Component) :
    Converters.none.component component = component := rfl

end LiveMarkup

namespace LiveMarkup.Parser

-- Without any depth left, every one of the parsers fails.
attribute [simp] level.eq_1 expression.eq_1 operandAt.eq_1 objectEntries.eq_1
  construct.eq_1

variable {converters : Converters} {depth : Nat} {pending : List Pending}
  {stream : TokenStream}

/-- A prefix operator where an operand is expected is put on the pending pile.
-/
theorem level_prefixOp {op : PrefixOp} (kind : stream.head.kind = .operator)
    (symbol : PrefixOp.ofSymbol? stream.head.value = some op) :
    level converters (depth + 1) pending none stream =
      level converters depth (.prefixOp op stream.head.span :: pending) none
        stream.tail := by
  rw [level]
  simp only [bind_apply, peek_apply, kind, next_apply, symbol]

/-- An operator that is no prefix operator cannot stand where an operand is
expected. -/
theorem level_not_prefixOp {result : (List Pending × Option Expr) × TokenStream}
    (kind : stream.head.kind = .operator)
    (symbol : PrefixOp.ofSymbol? stream.head.value = none) :
    level converters (depth + 1) pending none stream ≠ .ok result := by
  rw [level]
  simp only [bind_apply, peek_apply, kind, next_apply, symbol]
  exact fail_ne_ok

/-- An infix operator after an operand is put on the pile, and the next operand
is expected. -/
theorem level_infixOp {op : InfixOp} {left : Expr}
    (kind : stream.head.kind = .operator)
    (symbol : InfixOp.ofSymbol? stream.head.value = some op) :
    level converters (depth + 1) pending (some left) stream =
      level converters depth (Pending.pushInfix op pending left) none
        stream.tail := by
  rw [level]
  simp only [bind_apply, peek_apply, kind, next_apply, symbol]

/-- An operator that is no infix operator cannot follow an operand. -/
theorem level_not_infixOp {left : Expr}
    {result : (List Pending × Option Expr) × TokenStream}
    (kind : stream.head.kind = .operator)
    (symbol : InfixOp.ofSymbol? stream.head.value = none) :
    level converters (depth + 1) pending (some left) stream ≠ .ok result := by
  rw [level]
  simp only [bind_apply, peek_apply, kind, next_apply, symbol]
  exact fail_ne_ok

theorem level_opening_some {left : Expr}
    {result : (List Pending × Option Expr) × TokenStream}
    (kind : stream.head.kind = .leftParen) :
    level converters (depth + 1) pending (some left) stream ≠ .ok result := by
  rw [level]
  simp only [bind_apply, peek_apply, kind]
  exact unexpected_ne_ok

/-- An opening parenthesis starts a level of its own. -/
theorem level_opening_none (kind : stream.head.kind = .leftParen) :
    level converters (depth + 1) pending none stream =
      (level converters depth [] none >>= fun inner => do
        if (← peek).kind == .rightParen then
          let expr ← finish inner.1 inner.2
          let _ ← next
          level converters depth pending (some expr.inGroup)
        else failHere (.unclosedParenthesis stream.head.span.position))
          stream.tail := by
  rw [level]
  simp only [bind_apply, peek_apply, kind, next_apply]

/-- A token that begins an operand has that operand read in its place. -/
theorem level_atom (begins : stream.head.kind.beginsOperand = true) :
    level converters (depth + 1) pending none stream =
      (operandAt converters depth >>= fun operand =>
        level converters depth pending (some operand)) stream := by
  rw [level]
  cases kind : stream.head.kind <;>
    simp_all [TokenKind.beginsOperand, bind_apply]

/-- Without an operand the level stops in front of any token that begins none.
-/
theorem level_stop_none (notOperator : stream.head.kind ≠ .operator)
    (notOpening : stream.head.kind ≠ .leftParen)
    (notAtom : stream.head.kind.beginsOperand = false) :
    level converters (depth + 1) pending none stream =
      .ok ((pending, none), stream) := by
  rw [level]
  cases kind : stream.head.kind <;>
    simp_all [TokenKind.beginsOperand, bind_apply, pure_apply]

/-- With an operand in hand the level stops in front of any token that is
neither an operator nor an opening parenthesis. -/
theorem level_stop_some {operand : Expr}
    (notOperator : stream.head.kind ≠ .operator)
    (notOpening : stream.head.kind ≠ .leftParen) :
    level converters (depth + 1) pending (some operand) stream =
      .ok ((pending, some operand), stream) := by
  rw [level]
  cases kind : stream.head.kind <;> simp_all [bind_apply, pure_apply]

theorem finish_some (operand : Expr) :
    finish pending (some operand) stream =
      .ok (Pending.completeAll pending operand, stream) :=
  rfl

theorem finish_none {result : Expr × TokenStream} :
    finish pending none stream ≠ .ok result :=
  unexpected_ne_ok

/-- A property of a reference is read with its dot. -/
theorem chain_dot {start : Span} {bound : Nat} {base : Reference} {dot name : Token}
    {remaining : List Token} (upcoming : stream.upcoming = dot :: name :: remaining)
    (dotKind : dot.kind = .dot) (nameKind : name.kind = .name) :
    chain start (bound + 1) base stream =
      chain start bound (.property base name.value (start.through name.span))
        (stream.pass [dot, name] remaining) := by
  have isDot : stream.head.kind = .dot := by
    rw [TokenStream.head_of_upcoming upcoming, dotKind]
  have taken :
      expect .name stream.tail = .ok (name, stream.pass [dot, name] remaining) := by
    rw [TokenStream.tail_of_upcoming upcoming, expect_of_upcoming rfl nameKind,
      TokenStream.pass_pass]
    rfl
  rw [chain]
  simp only [bind_apply, peek_apply, isDot, beq_self_eq_true, if_true,
    next_apply, taken]

/-- A chain of names ends at the first token that is no dot. -/
theorem chain_stop {start : Span} {bound : Nat} {base : Reference}
    (notDot : stream.head.kind ≠ .dot) :
    chain start bound base stream = .ok (base, stream) := by
  cases bound with
  | zero => rfl
  | succ bound =>
      rw [chain]
      simp only [bind_apply, peek_apply, beq_iff_eq, notDot, if_false, pure_apply]

theorem objectEntries_closing {entries : List (String × Expr)}
    (kind : stream.head.kind = .rightBrace) :
    objectEntries converters (depth + 1) entries stream =
      .ok (entries, stream.tail) := by
  rw [objectEntries]
  simp only [bind_apply, peek_apply, kind, next_apply, pure_apply]

/-- A key is followed by its value, and then by the further entries or the
closing brace. -/
theorem objectEntries_key {entries : List (String × Expr)}
    (kind : stream.head.kind = .name ∨ stream.head.kind = .component ∨
      stream.head.kind = .text) :
    objectEntries .none (depth + 1) entries stream =
      (expect .colon >>= fun _ =>
        expression .none depth >>= fun value =>
          if entries.any (·.1 == stream.head.value) then
            fail (.duplicateObjectKey stream.head.value) stream.head.span.position
          else do
            if (← peek).kind == .comma then
              let _ ← next
              objectEntries .none depth (entries ++ [(stream.head.value, value)])
            else
              let _ ← expect .rightBrace
              pure (entries ++ [(stream.head.value, value)])) stream.tail := by
  rw [objectEntries]
  rcases kind with kind | kind | kind <;>
    simp only [bind_apply peek, bind_apply next, peek_apply, kind, next_apply,
      Converters.none_key, Converters.none_value_map] <;> rfl

/-- An object entry must begin with a key or with the closing brace. -/
theorem objectEntries_not_key {entries all : List (String × Expr)}
    {rest : TokenStream} (notClosing : stream.head.kind ≠ .rightBrace)
    (notKey :
      ¬ (stream.head.kind = .name ∨ stream.head.kind = .component ∨
        stream.head.kind = .text)) :
    objectEntries converters (depth + 1) entries stream ≠ .ok (all, rest) := by
  rw [objectEntries]
  simp only [bind_apply peek, peek_apply]
  cases kind : stream.head.kind <;> simp_all [unexpected_ne_ok]

/-! ## Expressions that nothing follows -/

/-- Read an expression up to the end of the input. -/
def soleExpression (converters : Converters) (depth : Nat) : Parser Expr := do
  let expr ← value converters depth
  if (← peek).kind == .endOfInput then pure expr
  else unexpected "end of expression"

theorem read_eq_soleExpression (converters : Converters) (source : String) :
    Expr.read converters source =
      (Parser.run converters source (soleExpression converters)).map Prod.fst :=
  rfl

/-- A sole expression is an expression that the end of the input follows. -/
theorem soleExpression_eq_ok {rest : TokenStream} {expr : Expr} :
    soleExpression .none depth stream = .ok (expr, rest) ↔
      expression .none depth stream = .ok (expr, rest) ∧
      rest.head.kind = .endOfInput := by
  rw [soleExpression, bind_eq_ok]
  constructor
  · rintro ⟨first, middle, parsed, finished⟩
    obtain ⟨before, expression, same⟩ := map_eq_ok.mp parsed
    have unconverted : before = first := same
    rw [bind_apply, peek_apply] at finished
    by_cases atEnd : middle.head.kind = .endOfInput
    · simp only [atEnd, BEq.rfl, if_true, pure_apply] at finished
      cases finished
      exact ⟨unconverted ▸ expression, atEnd⟩
    · simp only [beq_false_of_ne atEnd, Bool.false_eq_true, if_false] at finished
      exact absurd finished unexpected_ne_ok
  · rintro ⟨parsed, atEnd⟩
    refine ⟨expr, rest, map_eq_ok.mpr ⟨expr, parsed, rfl⟩, ?_⟩
    simp only [bind_apply, peek_apply, atEnd, BEq.rfl, if_true, pure_apply]

end LiveMarkup.Parser
