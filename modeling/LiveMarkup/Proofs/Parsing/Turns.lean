import Mathlib
import LiveMarkup.Document.Parser
import LiveMarkup.Proofs.Parsing.ExpressionSteps

/-!
# The turns of the parser

The functions of the parser call each other and themselves, each to some depth.
Here the calls are data, and the body of every function is a turn that is given
how to make the calls it needs.  One turn more is what one more level of depth
gives, so that what is shown about the turns holds of the functions.
-/

namespace LiveMarkup.Parser

/-- A call of one of the functions of the parser, with what it gives.  A loop
that takes another turn calls itself. -/
inductive Call : Type → Type where
  | imports (collected : List Import) : Call (List Import)
  | chain (start : Span) (base : Reference) : Call Reference
  | level (pending : List Pending) (operand : Option Expr) :
      Call (List Pending × Option Expr)
  | expression : Call Expr
  | operandAt : Call Expr
  | objectEntries (entries : List (String × Expr)) : Call (List (String × Expr))
  | construct (name : Token) : Call Expr
  | entries (collected : Body) : Call Body
  | body (collected : Body) : Call Body
  | component : Call Component
  | loop : Call Loop
  | document : Call Document
  | soleExpression : Call Expr

/-- How calls are made. -/
abbrev Calls := ∀ {α : Type}, Call α → Parser α

/-- The reference that a token begins. -/
def firstReference (head : Token) : Reference :=
  match head.kind with
  | .globalRef => .global head.value head.span
  | .aliasRef => .aliased (withoutSign head.value) head.span
  | _ => .local head.value head.span

/-- One turn of a loop over imports. -/
def importsTurn (calls : Calls) (collected : List Import) :
    Parser (List Import) :=
  do
  let kind := (← peek).kind
  if kind == .importModule || kind == .importTop then
    let keyword ← next
    let name ← expect .text
    if collected.any (·.moduleName == name.value)
      then fail (.duplicateImport name.value) name.span.position
    else calls (.imports
      (collected ++ [⟨name.value, kind == .importTop, keyword.span⟩]))
  else pure collected

/-- One turn of a loop over the properties after a reference. -/
def chainTurn (calls : Calls) (start : Span) (base : Reference) :
    Parser Reference :=
  do
  if (← peek).kind == .dot then
    let _ ← next
    let name ← expect .name
    calls (.chain start (.property base name.value (start.through name.span)))
  else pure base

/-- One turn of a loop over operators and operands. -/
def levelTurn (calls : Calls) (pending : List Pending) (operand : Option Expr) :
    Parser (List Pending × Option Expr) := do
  let token ← peek
  match token.kind, operand with
  | .operator, none =>
    let _ ← next
    match PrefixOp.ofSymbol? token.value with
    | some op => calls (.level (.prefixOp op token.span :: pending) none)
    | none => fail (.operandMissing token.value) token.span.position
  | .operator, some left =>
    let _ ← next
    match InfixOp.ofSymbol? token.value with
    | some op => calls (.level (Pending.pushInfix op pending left) none)
    | none => fail (.unsupportedOperator token.value) token.span.position
  | .leftParen, some _ => unexpected "an operator"
  | .leftParen, none =>
    let opening ← next
    let inner ← calls (.level [] none)
    if (← peek).kind == .rightParen then
      let expr ← finish inner.1 inner.2
      let _ ← next
      calls (.level pending (some expr.inGroup))
    else failHere (.unclosedParenthesis opening.span.position)
  | kind, none =>
    if kind.beginsOperand then
      let operand ← calls .operandAt
      calls (.level pending (some operand))
    else pure (pending, none)
  | _, some operand => pure (pending, some operand)

/-- Reading an expression. -/
def expressionTurn (calls : Calls) : Parser Expr := do
  let (pending, operand) ← calls (.level [] none)
  finish pending operand

/-- Reading an operand. -/
def operandTurn (calls : Calls) : Parser Expr := do
  let token ← next
  let span := token.span
  match token.kind with
  | .text => pure (.text (String.ofList (unescape token.value.toList)) span)
  | .integer =>
    match Decimal.readInt? token.value.toList with
    | some value => pure (.int value span)
    | none => fail (.integerOutOfRange token.value) span.position
  | .float =>
    match Decimal.readFloat? token.value.toList with
    | some value => pure (.float value span)
    | none => fail (.invalidFloat token.value) span.position
  | .boolean => pure (.bool (token.value == "true") span)
  | .null => pure (.null span)
  | .resource =>
    let _ ← expect .leftParen
    let path ← calls .expression
    let _ ← expect .rightParen
    pure (.resource path { span with stop := ← lastStop })
  | .vec2 =>
    let _ ← expect .leftParen
    let x ← calls .expression
    let _ ← expect .comma
    let y ← calls .expression
    let _ ← expect .rightParen
    pure (.vec2 x y { span with stop := ← lastStop })
  | .leftBrace =>
    let entries ← calls (.objectEntries [])
    pure (.object entries { span with stop := ← lastStop })
  | .name =>
    if (← peek).kind == .leftParen && isConstructor token.value
      then calls (.construct token)
    else pure (.reference (← calls (.chain token.span (firstReference token))))
  | _ => pure (.reference (← calls (.chain token.span (firstReference token))))

/-- Reading an entry of an object literal, and what goes on behind it. -/
def objectEntryTurn (converters : Converters) (calls : Calls)
    (entries : List (String × Expr)) (token : Token) :
    Parser (List (String × Expr)) :=
  do
  let _ ← next
  let _ ← expect .colon
  let key := converters.key token.value
  let value ← converters.value <$> calls .expression
  if entries.any (·.1 == key) then
    fail (.duplicateObjectKey key) token.span.position
  else
    let entries := entries ++ [(key, value)]
    if (← peek).kind == .comma then
      let _ ← next
      calls (.objectEntries entries)
    else
      let _ ← expect .rightBrace
      pure entries

/-- One turn of a loop over the entries of an object literal. -/
def objectEntriesTurn (converters : Converters) (calls : Calls)
    (entries : List (String × Expr)) : Parser (List (String × Expr)) :=
  do
  let token ← peek
  match token.kind with
  | .rightBrace =>
    let _ ← next
    pure entries
  | .name | .component | .text => objectEntryTurn converters calls entries token
  | _ => unexpected "an object key"

/-- Reading the arguments of a color or a style box. -/
def constructTurn (calls : Calls) (name : Token) : Parser Expr := do
  let _ ← expect .leftParen
  match StyleBox.ofConstructor? name.value with
  | some box =>
    if (← peek).kind == .rightParen then
      let _ ← next
      pure (.style box none { name.span with stop := ← lastStop })
    else
      let properties ← calls .expression
      let _ ← expect .rightParen
      pure (.style box (some properties) { name.span with stop := ← lastStop })
  | none =>
    let red ← calls .expression
    let _ ← expect .comma
    let green ← calls .expression
    let _ ← expect .comma
    let blue ← calls .expression
    if (← peek).kind == .comma then
      let _ ← next
      let alpha ← calls .expression
      let _ ← expect .rightParen
      pure (.color red green blue alpha { name.span with stop := ← lastStop })
    else
      let _ ← expect .rightParen
      pure (.color red green blue (.float 1.0 name.span)
        { name.span with stop := ← lastStop })

/-- Reading one key with its value. -/
def entryTurn (converters : Converters) (calls : Calls) (body : Body) :
    Parser Body :=
  do
  let token ← next
  let binding ← bindingSign
  let value ← converters.value <$> calls .expression
  let span := token.span.through value.span
  if token.kind == .signalName then
    addSignal body (converters.key (withoutSign token.value)) binding value span
  else
    addProperty body (converters.key token.value) binding value span

/-- One turn of a loop over keys with values. -/
def entriesTurn (converters : Converters) (calls : Calls) (body : Body) :
    Parser Body :=
  do
  let body ← entryTurn converters calls body
  if (← peek).kind == .comma then
    let _ ← next
    let kind := (← peek).kind
    if kind == .name || kind == .signalName then calls (.entries body)
    else pure body
  else pure body

/-- One turn of a loop over the parts of a body. -/
def bodyTurn (calls : Calls) (collected : Body) : Parser Body := do
  match (← peek).kind with
  | .rightBrace => pure collected
  | .endOfInput => failHere fun _ => .unclosedBlock
  | .component | .aliasRef =>
    let child ← calls .component
    calls (.body { collected with children := collected.children ++ [child] })
  | .name | .signalName =>
    let collected ← calls (.entries collected)
    calls (.body collected)
  | .each =>
    let inner ← calls .loop
    calls (.body { collected with loops := collected.loops ++ [inner] })
  | _ => unexpected "a property, signal, component or 'each' block"

/-- Reading a component. -/
def componentTurn (converters : Converters) (calls : Calls) : Parser Component := do
  let aliasName ← aliasSign?
  let head ← expect .component
  let _ ← expect .leftBrace
  let content ← calls (.body {})
  let closing ← expect .rightBrace
  pure (converters.component
    { name := head.value
      aliasName
      properties := content.properties
      signals := content.signals
      children := content.children
      loops := content.loops
      span := head.span.through closing.span })

/-- Reading a loop. -/
def loopTurn (calls : Calls) : Parser Loop := do
  let keyword ← next
  let source ← calls .expression
  let _ ← expect .using
  let itemType ← expect .component
  let _ ← expect .leftBrace
  let _ ← expect .pipe
  let indexName ← expect .name
  let _ ← expect .comma
  let valueName ← expect .name
  let _ ← expect .pipe
  let content ← calls (.body {})
  let closing ← expect .rightBrace
  match content.properties, content.signals with
  | property :: _, _ => fail (.propertyInLoop property.key) property.span.position
  | [], signal :: _ => fail (.signalInLoop signal.event) signal.span.position
  | [], [] =>
    pure
      { source
        itemType := itemType.value
        indexName := indexName.value
        valueName := valueName.value
        children := content.children
        loops := content.loops
        span := keyword.span.through closing.span }

/-- Reading a document. -/
def documentTurn (calls : Calls) : Parser Document := do
  let imports ← calls (.imports [])
  let controller ← controllerDirective?
  if (← peek).kind == .endOfInput then failHere fun _ => .missingRoot
  else
    let root ← calls .component
    if (← peek).kind == .endOfInput then
      pure { imports, aliases := (← get).aliases, controller, root }
    else unexpected "end of input after the root component"

/-- Reading an expression up to the end of the input. -/
def soleExpressionTurn (converters : Converters) (calls : Calls) : Parser Expr := do
  let expr ← converters.value <$> calls .expression
  if (← peek).kind == .endOfInput then pure expr
  else unexpected "end of expression"

namespace Call

/-- The body of the function that is called. -/
def turn {α : Type} (converters : Converters) (calls : Calls) : Call α → Parser α
  | .imports collected => importsTurn calls collected
  | .chain start base => chainTurn calls start base
  | .level pending operand => levelTurn calls pending operand
  | .expression => expressionTurn calls
  | .operandAt => operandTurn calls
  | .objectEntries collected => objectEntriesTurn converters calls collected
  | .construct name => constructTurn calls name
  | .entries collected => entriesTurn converters calls collected
  | .body collected => bodyTurn calls collected
  | .component => componentTurn converters calls
  | .loop => loopTurn calls
  | .document => documentTurn calls
  | .soleExpression => soleExpressionTurn converters calls

/-- The function that is called, to some depth.  The outermost functions hand
the depth on as it is, so that their calls come one level below them. -/
def run {α : Type} (converters : Converters) (depth : Nat) : Call α → Parser α
  | .imports collected => Parser.imports depth collected
  | .chain start base => Parser.chain start depth base
  | .level pending operand => Parser.level converters depth pending operand
  | .expression => Parser.expression converters depth
  | .operandAt => Parser.operandAt converters depth
  | .objectEntries collected => Parser.objectEntries converters depth collected
  | .construct name => Parser.construct converters depth name
  | .entries collected => Parser.entries converters depth collected
  | .body collected => Parser.body converters depth collected
  | .component => Parser.component converters depth
  | .loop => Parser.loop converters depth
  | .document => Parser.document converters (depth - 1)
  | .soleExpression => Parser.soleExpression converters (depth - 1)

/-- How far a call is from those that take a token before they call another: a
call that is made without a token taken is of a lower rank. -/
def rank {α : Type} : Call α → Nat
  | .operandAt => 1
  | .level _ _ => 2
  | .expression => 3
  | .loop => 4
  | .body _ => 5
  | .document => 6
  | .soleExpression => 6
  | _ => 0

/-- A call on a stream comes below another if it has fewer tokens before it, or
as many and a lower rank. -/
def Below {α β : Type} (other : Call β) (later : TokenStream) (call : Call α)
    (stream : TokenStream) : Prop :=
  later.upcoming.length < stream.upcoming.length ∨
    later.upcoming.length = stream.upcoming.length ∧ other.rank < call.rank

/-- A depth that suffices for a call. -/
def enough {α : Type} (call : Call α) (stream : TokenStream) : Nat :=
  7 * stream.upcoming.length + call.rank

theorem rank_le {α : Type} (call : Call α) : call.rank ≤ 6 := by
  cases call <;> simp [rank]

/-- A call made below another one needs strictly less fuel. -/
theorem Below.enough_lt {α β : Type} {other : Call β}
    {later stream : TokenStream} {call : Call α}
    (below : other.Below later call stream) :
    other.enough later < call.enough stream := by
  have small := other.rank_le
  unfold enough
  rcases below with fewer | ⟨same, lower⟩ <;> omega

/-! ## A level of depth is a turn -/

/-- A loop over the properties after a reference ends before its bound does, if
the bound is the number of tokens or more. -/
theorem chain_bounds {stream : TokenStream}
    (ends : stream.final.kind = .endOfInput) (start : Span) (base : Reference)
    {first second : Nat} (one : stream.upcoming.length ≤ first)
    (other : stream.upcoming.length ≤ second) :
    Parser.chain start first base stream =
      Parser.chain start second base stream := by
  by_cases dot : stream.head.kind = .dot
  · obtain ⟨remaining, upcoming, passed⟩ :=
      TokenStream.exists_upcoming ends (by rw [dot]; exact TokenKind.noConfusion)
    have longer : stream.upcoming.length = remaining.length + 1 := by
      rw [upcoming, List.length_cons]
    obtain ⟨first, rfl⟩ : ∃ less, first = less + 1 := ⟨first - 1, by omega⟩
    obtain ⟨second, rfl⟩ : ∃ less, second = less + 1 := ⟨second - 1, by omega⟩
    rw [Parser.chain, Parser.chain, bind_apply, bind_apply, peek_apply]
    simp only [beq_iff_eq, dot, if_true]
    rw [bind_apply, bind_apply, next_apply]
    dsimp only
    rw [bind_apply, bind_apply]
    cases named : expect .name stream.tail with
    | error => rfl
    | ok result =>
      obtain ⟨name, rest⟩ := result
      have behind : stream.tail.final.kind = .endOfInput := by
        rw [passed]
        exact ends
      obtain ⟨-, taken⟩ := expect_eq_ok behind (by decide) named
      have fewer : remaining.length = rest.upcoming.length + 1 := by
        have same := congrArg List.length taken.upcoming
        rw [passed] at same
        simpa [Nat.add_comm] using same
      dsimp only
      exact chain_bounds (by rw [taken.final, behind]) start _ (by omega) (by omega)
  · rw [chain_stop dot, chain_stop dot]
termination_by first

section Turns

variable (converters : Converters) (depth : Nat)

/-- With enough fuel for the tokens, an operand is read by one turn. -/
theorem run_operandAt {stream : TokenStream}
    (ends : stream.final.kind = .endOfInput)
    (enough : stream.upcoming.length ≤ depth) :
    run converters (depth + 1) .operandAt stream =
      turn converters (run converters depth) .operandAt stream := by
  have behind : stream.tail.final.kind = .endOfInput ∧
      stream.tail.upcoming.length ≤ depth := by
    unfold TokenStream.tail
    cases upcoming : stream.upcoming with
    | nil => exact ⟨ends, enough⟩
    | cons token rest =>
      rw [upcoming, List.length_cons] at enough
      exact ⟨ends, Nat.le_of_succ_le enough⟩
  have referred : reference stream.head stream.tail =
        run converters depth
          (.chain stream.head.span (firstReference stream.head)) stream.tail :=
    chain_bounds behind.1 _ _ (Nat.le_refl _) behind.2
  have wrapped :
      (reference stream.head >>= fun target => pure (Expr.reference target))
        stream.tail =
        (run converters depth
          (.chain stream.head.span (firstReference stream.head)) >>=
          fun target => pure (Expr.reference target)) stream.tail := by
    rw [bind_apply, bind_apply, referred]
  rw [run, turn, Parser.operandAt, operandTurn, bind_apply, bind_apply, next_apply]
  dsimp only
  cases stream.head.kind with
  | name =>
    dsimp only
    rw [bind_apply, bind_apply, peek_apply]
    dsimp only
    split
    · rfl
    · exact wrapped
  | text | boolean | null | resource | vec2 | leftBrace | integer | float => rfl
  | _ => exact wrapped

/-- One level of depth more is one turn more. -/
theorem run_succ {α : Type} (call : Call α) {stream : TokenStream}
    (ends : stream.final.kind = .endOfInput)
    (enough : stream.upcoming.length ≤ depth) :
    run converters (depth + 1) call stream =
      turn converters (run converters depth) call stream := by
  cases call with
  | imports collected => rfl
  | chain start base => rfl
  | level pending operand =>
    rw [run, Parser.level]
    rfl
  | expression =>
    rw [run, Parser.expression]
    rfl
  | operandAt => exact run_operandAt converters depth ends enough
  | objectEntries collected =>
    rw [run, Parser.objectEntries]
    rfl
  | construct name =>
    rw [run, Parser.construct]
    rfl
  | entries collected =>
    rw [run, Parser.entries]
    rfl
  | body collected =>
    rw [run, Parser.body]
    rfl
  | component =>
    rw [run, Parser.component]
    rfl
  | loop =>
    rw [run, Parser.loop]
    rfl
  | document => rfl
  | soleExpression => rfl

end Turns

end Call

end LiveMarkup.Parser
