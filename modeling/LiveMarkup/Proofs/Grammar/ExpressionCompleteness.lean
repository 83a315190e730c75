import LiveMarkup.Proofs.Grammar.ExpressionSoundness

/-!
# Derivable expressions are parsed

The other direction: whatever the grammar derives, the expression parser
reads, provided that the token after it cannot extend it and that the parser
may nest deeply enough.

A derivation in a layer is read onto the operators that wait already.  The
operators on its right edge stay waiting, all of them in the layer or in a
tighter one; this spine is what the next operator completes.
-/

namespace LiveMarkup.Grammar

open LiveMarkup.Parser

/-! ## Spines -/

/-- The layer of a waiting operator. -/
def waitingLayer : Pending → Nat
  | .prefixOp _ _ => prefixLayer
  | .infixOp op _ => layerOf op

/-- An infix operator completes the waiting ones of its layer and of the tighter
ones. -/
theorem precedence_le_waiting_iff (op : InfixOp) (waiting : Pending) :
    op.precedence ≤ waiting.precedence ↔ layerOf op ≤ waitingLayer waiting := by
  cases waiting with
  | prefixOp =>
      constructor
      · intro _
        exact Nat.le_of_lt (layerOf_lt_prefixLayer op)
      · intro _
        exact Nat.le_of_lt (InfixOp.precedence_lt_prefixOp op)
  | infixOp other left => exact precedence_le_iff op other

/-- The innermost waiting operator takes an operand of a layer. -/
def Takes (layer : Nat) : List Pending → Prop
  | [] => True
  | .prefixOp _ _ :: _ => prefixLayer ≤ layer
  | .infixOp op _ :: _ => layerOf op < layer

/-- What waits for operands of a layer takes those of tighter layers too. -/
theorem Takes.mono {layer tighter : Nat} {pending : List Pending}
    (takes : Takes layer pending) (le : layer ≤ tighter) :
    Takes tighter pending := by
  cases pending with
  | nil => trivial
  | cons waiting others =>
      cases waiting with
      | prefixOp => exact Nat.le_trans takes le
      | infixOp => exact Nat.lt_of_lt_of_le takes le

theorem completeAll_append (inner outer : List Pending) (operand : Expr) :
    Pending.completeAll (inner ++ outer) operand =
      Pending.completeAll outer (Pending.completeAll inner operand) := by
  induction inner generalizing operand with
  | nil => rfl
  | cons waiting inner induction => exact induction _

/-- A new infix operator completes a whole spine and nothing below it. -/
theorem pushInfix_spine (op : InfixOp) {pending : List Pending}
    (takes : Takes (layerOf op) pending) :
    ∀ (spine : List Pending) (operand : Expr),
      (∀ waiting ∈ spine, layerOf op ≤ waitingLayer waiting) →
        Pending.pushInfix op (spine ++ pending) operand =
          .infixOp op (Pending.completeAll spine operand) :: pending := by
  intro spine
  induction spine with
  | nil =>
      intro operand _
      cases pending with
      | nil => rfl
      | cons waiting others =>
          have stays : ¬ op.precedence ≤ waiting.precedence := by
            rw [precedence_le_waiting_iff, Nat.not_le]
            cases waiting with
            | prefixOp =>
                exact absurd takes (Nat.not_le.mpr (layerOf_lt_prefixLayer op))
            | infixOp => exact takes
          simp [Pending.pushInfix, Pending.completeAll, stays]
  | cons waiting spine induction =>
      intro operand bounded
      have binds : op.precedence ≤ waiting.precedence :=
        (precedence_le_waiting_iff op waiting).mpr
          (bounded waiting List.mem_cons_self)
      rw [List.cons_append, Pending.pushInfix, if_pos binds, Pending.completeAll]
      refine induction _ ?_
      intro other member
      exact bounded other (List.mem_cons_of_mem _ member)

/-! ## What it means to be read -/

/-- A token that does not extend the last operand of some tokens. -/
structure Follows (tokens : List Token) (next : Token) : Prop where
  notOpening : next.kind ≠ .leftParen
  notDot : endsInReference tokens → next.kind ≠ .dot

theorem CannotExtend.follows {tokens : List Token} {next : Token}
    (stops : CannotExtend tokens next) : Follows tokens next :=
  ⟨stops.notOpening, stops.notDot⟩

/-- A token of punctuation follows every expression and extends none. -/
theorem cannotExtend_of_kind {tokens : List Token} {next : Token}
    (kind : next.kind ≠ .operator ∧ next.kind ≠ .leftParen ∧ next.kind ≠ .dot) :
    CannotExtend tokens next :=
  ⟨kind.1, kind.2.1, fun _ => kind.2.2⟩

/-- The last token decides what may follow. -/
theorem Follows.of_append {tokens : List Token} {next : Token} (before : List Token)
    (follows : Follows (before ++ tokens) next) (nonempty : tokens ≠ []) :
    Follows tokens next := by
  constructor
  · exact follows.notOpening
  · intro isReference
    refine follows.notDot ?_
    rw [endsInReference_append nonempty]
    exact isReference

/--
The tokens of a layer are read onto the operators that wait: what they leave
is a spine of that layer and an operand, which together are the expression.
-/
def Reads (layer : Nat) (tokens : List Token) (expr : Expr) : Prop :=
  ∃ (spine : List Pending) (operand : Expr),
    Pending.completeAll spine operand = expr ∧
      (∀ waiting ∈ spine, layer ≤ waitingLayer waiting) ∧
        ∀ (depth : Nat) (pending : List Pending) (stream : TokenStream)
          (remaining : List Token),
          2 * tokens.length < depth → Takes layer pending →
            stream.upcoming = tokens ++ remaining →
              Follows tokens (remaining.headD stream.final) →
                ∃ left,
                  depth ≤ left + tokens.length ∧
                    level .none depth pending none stream =
                      level .none left (spine ++ pending) (some operand)
                        (stream.pass tokens remaining)

/-- The tokens of an operand are read as that operand. -/
def ReadsAtom (tokens : List Token) (expr : Expr) : Prop :=
  ∀ (depth : Nat) (stream : TokenStream) (remaining : List Token),
    2 * tokens.length ≤ depth → stream.upcoming = tokens ++ remaining →
      Follows tokens (remaining.headD stream.final) →
        stream.head.kind.beginsOperand = true ∧
          operandAt .none depth stream = .ok (expr, stream.pass tokens remaining)

/-- The tokens of entries are read as those entries, up to the closing brace. -/
def ReadsEntries (tokens : List Token) (entries : List (String × Expr)) : Prop :=
  ∀ (depth : Nat) (before : List (String × Expr)) (closing : Token)
    (stream : TokenStream) (remaining : List Token), 2 * tokens.length < depth →
    stream.upcoming = tokens ++ closing :: remaining →
    closing.kind = .rightBrace → ((before ++ entries).map Prod.fst).Nodup →
    objectEntries .none depth before stream =
    .ok (before ++ entries, stream.pass (tokens ++ [closing]) remaining)

/-- Tokens of the loosest layer are read as an expression. -/
theorem Reads.expression {tokens : List Token} {expr : Expr}
    (reads : Reads 0 tokens expr) (depth : Nat) (stream : TokenStream)
    (remaining : List Token) (enough : 2 * tokens.length + 1 < depth)
    (upcoming : stream.upcoming = tokens ++ remaining)
    (stops : CannotExtend tokens (remaining.headD stream.final)) :
    Parser.expression .none depth stream =
      .ok (expr, stream.pass tokens remaining) := by
  obtain ⟨spine, operand, completed, -, reached⟩ := reads
  obtain ⟨depth, rfl⟩ : ∃ fewer, depth = fewer + 1 := ⟨depth - 1, by omega⟩
  obtain ⟨left, bound, reached⟩ :=
    reached depth [] stream remaining (by omega) trivial upcoming stops.follows
  obtain ⟨left, rfl⟩ : ∃ fewer, left = fewer + 1 := ⟨left - 1, by omega⟩
  have stopped :
      level .none (left + 1) spine (some operand) (stream.pass tokens remaining) =
        .ok ((spine, some operand), stream.pass tokens remaining) :=
    level_stop_some stops.notOperator stops.notOpening
  rw [List.append_nil, stopped] at reached
  rw [Parser.expression]
  simp only [bind_apply, reached, finish_some, completed]

/-- An expression is read up to a token that cannot extend it. -/
theorem Reads.upTo {tokens passed remaining : List Token} {expr : Expr}
    {next : Token} {depth : Nat} {stream : TokenStream} {β : Type}
    {further : Expr → Parser β} (reads : Reads 0 tokens expr)
    (enough : 2 * tokens.length + 1 < depth)
    (stops : CannotExtend tokens next) :
    (Parser.expression .none depth >>= further)
      (stream.pass passed (tokens ++ next :: remaining)) =
      further expr (stream.pass (passed ++ tokens) (next :: remaining)) := by
  have read :=
    reads.expression depth (stream.pass passed (tokens ++ next :: remaining))
      (next :: remaining) enough rfl stops
  rw [bind_apply, read, TokenStream.pass_pass]

/-- An expression is read up to the punctuation that must follow it. -/
theorem Reads.followed {tokens passed remaining : List Token} {expr : Expr}
    {next : Token} {kind : TokenKind} {depth : Nat} {stream : TokenStream}
    {β : Type} {further : Expr → Token → Parser β}
    (reads : Reads 0 tokens expr) (enough : 2 * tokens.length + 1 < depth)
    (nextKind : next.kind = kind)
    (punctuation : kind ≠ .operator ∧ kind ≠ .leftParen ∧ kind ≠ .dot) :
    (Parser.expression .none depth >>= fun value => expect kind >>= fun token =>
      further value token) (stream.pass passed (tokens ++ next :: remaining)) =
      further expr next (stream.pass (passed ++ tokens ++ [next])
        remaining) := by
  rw [reads.upTo enough
    (cannotExtend_of_kind (by simpa [nextKind] using punctuation)),
    expect_pass nextKind]

/-- An expression does not start with a closing parenthesis. -/
theorem Reads.notClosing {tokens remaining : List Token} {expr : Expr}
    {closing : Token} (reads : Reads 0 tokens expr) (stream : TokenStream)
    (closingKind : closing.kind = .rightParen)
    (upcoming : stream.upcoming = tokens ++ closing :: remaining) :
    stream.head.kind ≠ .rightParen := by
  intro kind
  have read :=
    reads.expression (2 * tokens.length + 1 + 1) stream _ (Nat.lt_succ_self _)
      upcoming (cannotExtend_of_kind (by simp [closingKind]))
  rw [Parser.expression, bind_apply,
    level_stop_none (by simp [kind]) (by simp [kind])
    (by rw [kind]; rfl)] at read
  exact finish_none read

/-! ## Operators and groups -/

/-- Two operands around an infix operator are read as an application of it. -/
theorem reads_infixOp {leftTokens rightTokens : List Token} {left right : Expr}
    {operator : Token} {op : InfixOp} (kind : operator.kind = .operator)
    (symbol : InfixOp.ofSymbol? operator.value = some op)
    (nonempty : rightTokens ≠ [])
    (leftReads : Reads (layerOf op) leftTokens left)
    (rightReads : Reads (layerOf op + 1) rightTokens right) :
    Reads (layerOf op) (leftTokens ++ operator :: rightTokens)
      (.applyInfix op left right false (left.span.through right.span)) := by
  obtain ⟨leftSpine, leftOperand, leftCompleted, leftBounded, leftReached⟩ :=
    leftReads
  obtain ⟨rightSpine, rightOperand, rightCompleted, rightBounded,
      rightReached⟩ :=
    rightReads
  refine ⟨rightSpine ++ [.infixOp op left], rightOperand, ?_, ?_, ?_⟩
  · rw [completeAll_append, rightCompleted]
    rfl
  · intro waiting member
    rcases List.mem_append.mp member with member | member
    · exact Nat.le_of_succ_le (rightBounded waiting member)
    · rw [List.mem_singleton] at member
      subst member
      exact Nat.le_refl _
  · intro depth pending stream remaining enough takes upcoming follows
    simp only [List.length_append, List.length_cons] at enough
    have leftUpcoming : stream.upcoming =
          leftTokens ++ operator :: (rightTokens ++ remaining) := by
      simpa using upcoming
    obtain ⟨afterLeft, leftBound, leftRead⟩ :=
      leftReached depth pending stream _ (by omega) takes leftUpcoming
        ⟨by simp [kind], by simp [kind]⟩
    obtain ⟨afterOperator, rfl⟩ : ∃ fewer, afterLeft = fewer + 1 :=
      ⟨afterLeft - 1, by omega⟩
    have pushed :
        level .none (afterOperator + 1) (leftSpine ++ pending)
          (some leftOperand)
          (stream.pass leftTokens (operator :: (rightTokens ++ remaining))) =
          level .none afterOperator
            (Pending.pushInfix op (leftSpine ++ pending) leftOperand) none
            (stream.pass leftTokens
              (operator :: (rightTokens ++ remaining))).tail :=
      level_infixOp kind symbol
    rw [pushInfix_spine op takes leftSpine leftOperand leftBounded, leftCompleted,
      TokenStream.tail_of_upcoming rfl, TokenStream.pass_pass] at pushed
    obtain ⟨afterRight, rightBound, rightRead⟩ :=
      rightReached afterOperator (.infixOp op left :: pending)
        (stream.pass (leftTokens ++ [operator]) (rightTokens ++ remaining))
        remaining (by omega) (Nat.lt_succ_self _) rfl
        (.of_append [operator]
          (.of_append leftTokens follows (by simp)) nonempty)
    refine ⟨afterRight, by simp; omega, ?_⟩
    rw [leftRead, pushed, rightRead, TokenStream.pass_pass]
    simp

/-- What is read at a layer is read at the looser one before it. -/
theorem Reads.loosen {layer : Nat} {tokens : List Token} {expr : Expr}
    (reads : Reads (layer + 1) tokens expr) : Reads layer tokens expr := by
  obtain ⟨spine, operand, completed, bounded, reached⟩ := reads
  refine ⟨spine, operand, completed, ?_, ?_⟩
  · intro waiting member
    exact Nat.le_of_succ_le (bounded waiting member)
  · intro depth pending stream remaining enough takes upcoming follows
    exact reached depth pending stream remaining enough
      (takes.mono (Nat.le_succ layer)) upcoming follows

/-- An operand after a prefix operator is read as an application of it. -/
theorem reads_prefixOp {tokens : List Token} {right : Expr} {operator : Token}
    {op : PrefixOp} (kind : operator.kind = .operator)
    (symbol : PrefixOp.ofSymbol? operator.value = some op)
    (nonempty : tokens ≠ []) (reads : Reads prefixLayer tokens right) :
    Reads prefixLayer (operator :: tokens)
      (.applyPrefix op right false (operator.span.through right.span)) := by
  obtain ⟨spine, operand, completed, bounded, reached⟩ := reads
  refine ⟨spine ++ [.prefixOp op operator.span], operand, ?_, ?_, ?_⟩
  · rw [completeAll_append, completed]
    rfl
  · intro waiting member
    rcases List.mem_append.mp member with member | member
    · exact bounded waiting member
    · rw [List.mem_singleton] at member
      subst member
      exact Nat.le_refl _
  · intro depth pending stream remaining enough takes upcoming follows
    simp only [List.length_cons] at enough
    obtain ⟨depth, rfl⟩ : ∃ fewer, depth = fewer + 1 := ⟨depth - 1, by omega⟩
    have upcoming : stream.upcoming = operator :: (tokens ++ remaining) := upcoming
    have isHead : stream.head = operator := TokenStream.head_of_upcoming upcoming
    have pushed : level .none (depth + 1) pending none stream =
          level .none depth (.prefixOp op stream.head.span :: pending) none
            stream.tail :=
      level_prefixOp (by rw [isHead, kind]) (by rw [isHead]; exact symbol)
    rw [TokenStream.tail_of_upcoming upcoming, isHead] at pushed
    obtain ⟨left, bound, read⟩ :=
      reached depth (.prefixOp op operator.span :: pending)
        (stream.pass [operator] (tokens ++ remaining)) remaining
        (by omega) (Nat.le_refl _) rfl (.of_append [operator] follows nonempty)
    refine ⟨left, by simp; omega, ?_⟩
    rw [pushed, read, TokenStream.pass_pass]
    simp

/-- An expression in parentheses is read as the same one in a group. -/
theorem reads_group {tokens : List Token} {expr : Expr}
    {opening closing : Token} (openingKind : opening.kind = .leftParen)
    (closingKind : closing.kind = .rightParen) (reads : Reads 0 tokens expr) :
    Reads prefixLayer (opening :: tokens ++ [closing]) expr.inGroup := by
  obtain ⟨spine, operand, completed, -, reached⟩ := reads
  refine ⟨[], expr.inGroup, rfl, by simp, ?_⟩
  intro depth pending stream remaining enough takes upcoming follows
  simp only [List.length_append, List.length_cons, List.length_nil] at enough
  obtain ⟨depth, rfl⟩ : ∃ fewer, depth = fewer + 1 := ⟨depth - 1, by omega⟩
  have upcoming :
      stream.upcoming = opening :: (tokens ++ closing :: remaining) := by
    simpa using upcoming
  have isHead : stream.head = opening := TokenStream.head_of_upcoming upcoming
  obtain ⟨left, bound, inner⟩ :=
    reached depth [] (stream.pass [opening] (tokens ++ closing :: remaining))
      (closing :: remaining) (by omega) trivial rfl
      (cannotExtend_of_kind (by simp [closingKind])).follows
  obtain ⟨left, rfl⟩ : ∃ fewer, left = fewer + 1 := ⟨left - 1, by omega⟩
  rw [List.append_nil, TokenStream.pass_pass, level_stop_some
    (by simp [closingKind]) (by simp [closingKind])] at inner
  refine ⟨depth, by simp, ?_⟩
  rw [level_opening_none (by rw [isHead, openingKind]),
    TokenStream.tail_of_upcoming upcoming]
  simp only [bind_apply, inner, peek_apply, TokenStream.pass_head,
    List.headD_cons, closingKind, beq_self_eq_true, if_true, finish_some,
    next_apply, completed]
  rw [TokenStream.tail_of_upcoming rfl, TokenStream.pass_pass]
  simp

/-- Atoms are read at the layer of prefix operators. -/
theorem reads_atom {tokens : List Token} {expr : Expr} (nonempty : tokens ≠ [])
    (reads : ReadsAtom tokens expr) : Reads prefixLayer tokens expr := by
  refine ⟨[], expr, rfl, by simp, ?_⟩
  intro depth pending stream remaining enough takes upcoming follows
  have positive : 0 < tokens.length := List.length_pos_iff.mpr nonempty
  obtain ⟨depth, rfl⟩ : ∃ fewer, depth = fewer + 1 := ⟨depth - 1, by omega⟩
  obtain ⟨begins, read⟩ := reads depth stream remaining (by omega) upcoming follows
  refine ⟨depth, by omega, ?_⟩
  rw [level_atom begins]
  simp only [bind_apply, read, List.nil_append]

/-! ## Operands -/

/--
A reference is read from its first token on: after a dot for every property,
the target has been read and more properties may follow.
-/
structure ReadsReference (head : Token) (trail : List Token)
    (target : Reference) : Prop where
  kind : head.kind = .globalRef ∨ head.kind = .aliasRef ∨ head.kind = .name
  dotted : ∀ token ∈ trail.head?, token.kind = .dot
  starts : ∀ last, head.span.through last = target.span.through last
  reached : ∀ (stream : TokenStream) (remaining : List Token),
      stream.upcoming = trail ++ remaining →
      ∃ bound,
        remaining.length ≤ bound ∧
        reference head stream =
          chain head.span bound target (stream.pass trail remaining)

/-- A reference begins with its head. -/
theorem ReadsReference.of_head {head : Token} {target : Reference}
    (kind : head.kind = .globalRef ∨ head.kind = .aliasRef ∨ head.kind = .name)
    (starts : ∀ last, head.span.through last = target.span.through last)
    (equal :
      ∀ stream,
        reference head stream =
          chain head.span stream.upcoming.length target stream) :
    ReadsReference head [] target := by
  refine ⟨kind, by simp, starts, ?_⟩
  intro stream remaining upcoming
  refine ⟨stream.upcoming.length, by simp [upcoming], ?_⟩
  rw [List.nil_append] at upcoming
  rw [equal, ← upcoming, TokenStream.pass_nil]

/-- Whatever reference is derived is read from its head and its trail. -/
theorem DerivesReference.reads {tokens : List Token} {target : Reference}
    (derived : DerivesReference tokens target) :
    ∃ head trail, tokens = head :: trail ∧ ReadsReference head trail target := by
  induction derived with
  | global head kind =>
      exact ⟨head, [], rfl, .of_head (.inl kind) (fun _ => rfl) fun _ => by
        simp only [reference, kind]⟩
  | aliased head kind =>
      exact ⟨head, [], rfl, .of_head (.inr (.inl kind)) (fun _ => rfl) fun _ => by
        simp only [reference, kind]⟩
  | «local» head kind =>
      exact ⟨head, [], rfl, .of_head (.inr (.inr kind)) (fun _ => rfl) fun _ => by
        simp only [reference, kind]⟩
  | property derived dot name dotKind nameKind induction =>
      obtain ⟨head, trail, rfl, reads⟩ := induction
      refine ⟨head, trail ++ [dot, name], rfl, reads.kind, ?_, reads.starts, ?_⟩
      · cases trail with
        | nil => simpa using dotKind
        | cons token others => simpa using reads.dotted
      · intro stream remaining upcoming
        obtain ⟨bound, long, read⟩ :=
          reads.reached stream (dot :: name :: remaining) (by simpa using upcoming)
        simp only [List.length_cons] at long
        obtain ⟨bound, rfl⟩ : ∃ fewer, bound = fewer + 1 := ⟨bound - 1, by omega⟩
        refine ⟨bound, by omega, ?_⟩
        rw [read, chain_dot rfl dotKind nameKind, TokenStream.pass_pass,
          reads.starts]

theorem DerivesReference.endsInReference {tokens : List Token} {target : Reference}
    (derived : DerivesReference tokens target) : endsInReference tokens := by
  cases derived with
  | property _ dot name _ nameKind =>
      rw [endsInReference_append (by simp)]
      simp [Grammar.endsInReference, nameKind]
  | _ head kind => simp [Grammar.endsInReference, kind]

/-- A reference is read as an atom. -/
theorem readsAtom_reference {tokens : List Token} {target : Reference}
    (derived : DerivesReference tokens target) :
    ReadsAtom tokens (.reference target) := by
  have ends := derived.endsInReference
  obtain ⟨head, trail, rfl, reads⟩ := derived.reads
  intro depth stream remaining enough upcoming follows
  simp only [List.length_cons] at enough
  obtain ⟨depth, rfl⟩ : ∃ fewer, depth = fewer + 1 := ⟨depth - 1, by omega⟩
  have upcoming : stream.upcoming = head :: (trail ++ remaining) := upcoming
  have isHead : stream.head = head := TokenStream.head_of_upcoming upcoming
  have isTail := TokenStream.tail_of_upcoming upcoming
  have notOpening : ((stream.pass [head] (trail ++ remaining)).head.kind ==
         TokenKind.leftParen) = false := by
    cases trail with
    | nil => simpa using follows.notOpening
    | cons token others =>
        have isDot : token.kind = .dot := reads.dotted token rfl
        simp [isDot]
  obtain ⟨bound, -, read⟩ :=
    reads.reached (stream.pass [head] (trail ++ remaining)) remaining rfl
  have stopped :
      chain head.span bound target (stream.pass (head :: trail) remaining) =
        .ok (target, stream.pass (head :: trail) remaining) :=
    chain_stop (follows.notDot ends)
  rw [TokenStream.pass_pass, List.singleton_append, stopped] at read
  constructor
  · rw [isHead]
    rcases reads.kind with kind | kind | kind <;> rw [kind] <;> rfl
  · rw [operandAt]
    rcases reads.kind with kind | kind | kind
    · simp only [bind_apply, next_apply, isHead, isTail, kind, read, pure_apply]
    · simp only [bind_apply, next_apply, isHead, isTail, kind, read, pure_apply]
    · simp only [bind_apply, next_apply, isHead, isTail, kind, peek_apply,
        notOpening, Bool.false_and, Bool.false_eq_true, if_false,
        read, pure_apply]

/-- An operand of one token is what the parser makes of that token. -/
theorem readsAtom_of_token {token : Token} {expr : Expr}
    (begins : token.kind.beginsOperand = true)
    (read :
      ∀ {depth : Nat} {stream : TokenStream},
        stream.head = token →
        operandAt .none (depth + 1) stream = .ok (expr, stream.tail)) :
    ReadsAtom [token] expr := by
  intro depth stream remaining enough upcoming follows
  simp only [List.length_singleton] at enough
  obtain ⟨depth, rfl⟩ : ∃ fewer, depth = fewer + 1 := ⟨depth - 1, by omega⟩
  have isHead : stream.head = token := TokenStream.head_of_upcoming upcoming
  have upcoming : stream.upcoming = token :: remaining := upcoming
  constructor
  · rw [isHead, begins]
  · rw [read isHead, TokenStream.tail_of_upcoming upcoming]

/-- The rest of a composite literal after its first token. -/
theorem readsAtom_of_head {head : Token} {expr : Expr} (rest : List Token)
    (begins : head.kind.beginsOperand = true)
    (read :
      ∀ {depth : Nat} {stream : TokenStream} {remaining : List Token},
        2 * rest.length ≤ depth →
        stream.upcoming = head :: (rest ++ remaining) →
        operandAt .none (depth + 1) stream =
          .ok (expr, stream.pass (head :: rest) remaining)) :
    ReadsAtom (head :: rest) expr := by
  intro depth stream remaining enough upcoming follows
  simp only [List.length_cons] at enough
  obtain ⟨depth, rfl⟩ : ∃ fewer, depth = fewer + 1 := ⟨depth - 1, by omega⟩
  constructor
  · rw [TokenStream.head_of_upcoming upcoming, begins]
  · exact read (by omega) upcoming

/-- A constructor is read by its name and its opening parenthesis. -/
theorem readsAtom_of_construct {head opening : Token} {expr : Expr}
    (rest : List Token) (headKind : head.kind = .name)
    (openingKind : opening.kind = .leftParen)
    (constructs : isConstructor head.value = true)
    (read :
      ∀ {depth : Nat} {stream : TokenStream} {remaining : List Token},
        2 * rest.length < depth →
        construct .none (depth + 1) head
          (stream.pass [head] (opening :: (rest ++ remaining))) =
          .ok (expr, stream.pass (head :: opening :: rest) remaining)) :
    ReadsAtom (head :: opening :: rest) expr := by
  refine readsAtom_of_head (opening :: rest) (by rw [headKind]; rfl) ?_
  intro depth stream remaining enough upcoming
  simp only [List.length_cons] at enough
  obtain ⟨depth, rfl⟩ : ∃ fewer, depth = fewer + 1 := ⟨depth - 1, by omega⟩
  rw [operandAt]
  simp only [bind_apply next, next_apply,
    TokenStream.head_of_upcoming upcoming, headKind]
  rw [TokenStream.tail_of_upcoming upcoming, List.cons_append, peek_pass]
  simp only [openingKind, constructs, beq_self_eq_true, Bool.and_self, if_true]
  exact read (by omega)

/-- A resource is read with the expression of its path. -/
theorem readsAtom_resource {tokens : List Token} {path : Expr}
    {head opening closing : Token} (headKind : head.kind = .resource)
    (openingKind : opening.kind = .leftParen)
    (closingKind : closing.kind = .rightParen) (reads : Reads 0 tokens path) :
    ReadsAtom (head :: opening :: tokens ++ [closing])
      (.resource path (head.span.through closing.span)) := by
  refine readsAtom_of_head (opening :: tokens ++ [closing])
    (by rw [headKind]; rfl) ?_
  intro depth stream remaining enough upcoming
  simp only [List.length_append, List.length_cons, List.length_nil] at enough
  rw [operandAt]
  simp only [bind_apply next, next_apply,
    TokenStream.head_of_upcoming upcoming, headKind]
  rw [TokenStream.tail_of_upcoming upcoming]
  simp only [List.cons_append, List.append_assoc, List.nil_append]
  rw [expect_pass openingKind,
    reads.followed (by omega) closingKind (by decide)]
  simp [bind_apply, pure_apply, Span.through]

/-- A vector is read with its two components. -/
theorem readsAtom_vec2 {xTokens yTokens : List Token} {x y : Expr}
    {head opening comma closing : Token}
    (headKind : head.kind = .vec2) (openingKind : opening.kind = .leftParen)
    (commaKind : comma.kind = .comma) (closingKind : closing.kind = .rightParen)
    (xReads : Reads 0 xTokens x) (yReads : Reads 0 yTokens y) :
    ReadsAtom (head :: opening :: xTokens ++ comma :: yTokens ++ [closing])
      (.vec2 x y (head.span.through closing.span)) := by
  refine readsAtom_of_head (opening :: xTokens ++ comma :: yTokens ++ [closing])
    (by rw [headKind]; rfl) ?_
  intro depth stream remaining enough upcoming
  simp only [List.length_append, List.length_cons, List.length_nil] at enough
  rw [operandAt]
  simp only [bind_apply next, next_apply,
    TokenStream.head_of_upcoming upcoming, headKind]
  rw [TokenStream.tail_of_upcoming upcoming]
  simp only [List.cons_append, List.append_assoc, List.nil_append]
  rw [expect_pass openingKind,
    xReads.followed (by omega) commaKind (by decide),
    yReads.followed (by omega) closingKind (by decide)]
  simp [bind_apply, pure_apply, Span.through]

/-- A color with three components is read with an opacity of one. -/
theorem readsAtom_solidColor {redTokens greenTokens blueTokens : List Token}
    {red green blue : Expr}
    {head opening firstComma secondComma closing : Token}
    (headKind : head.kind = .name) (headValue : head.value = "color")
    (openingKind : opening.kind = .leftParen)
    (firstKind : firstComma.kind = .comma)
    (secondKind : secondComma.kind = .comma)
    (closingKind : closing.kind = .rightParen)
    (redReads : Reads 0 redTokens red)
    (greenReads : Reads 0 greenTokens green)
    (blueReads : Reads 0 blueTokens blue) :
    ReadsAtom (head :: opening :: redTokens ++ firstComma :: greenTokens ++
      secondComma :: blueTokens ++ [closing])
      (.color red green blue (.float 1.0 head.span)
        (head.span.through closing.span)) := by
  refine readsAtom_of_construct
    (redTokens ++ firstComma :: greenTokens ++ secondComma ::
      blueTokens ++ [closing])
    headKind openingKind (by rw [headValue]; decide) ?_
  intro depth stream remaining enough
  simp only [List.length_append, List.length_cons, List.length_nil] at enough
  have noBox : StyleBox.ofConstructor? head.value = none := by rw [headValue]; rfl
  simp only [List.append_assoc, List.cons_append, List.nil_append]
  rw [construct, expect_pass openingKind]
  simp only [noBox]
  rw [redReads.followed (by omega) firstKind (by decide),
    greenReads.followed (by omega) secondKind (by decide),
    blueReads.upTo (by omega) (cannotExtend_of_kind (by simp [closingKind])),
    peek_pass]
  simp only [closingKind, show (TokenKind.rightParen == TokenKind.comma) = false
    from rfl, Bool.false_eq_true, if_false]
  rw [expect_pass closingKind]
  simp [bind_apply, pure_apply, Span.through]

/-- A color with four components is read. -/
theorem readsAtom_color {redTokens greenTokens blueTokens alphaTokens : List Token}
    {red green blue alpha : Expr}
    {head opening firstComma secondComma thirdComma closing : Token}
    (headKind : head.kind = .name) (headValue : head.value = "color")
    (openingKind : opening.kind = .leftParen)
    (firstKind : firstComma.kind = .comma) (secondKind : secondComma.kind = .comma)
    (thirdKind : thirdComma.kind = .comma)
    (closingKind : closing.kind = .rightParen)
    (redReads : Reads 0 redTokens red) (greenReads : Reads 0 greenTokens green)
    (blueReads : Reads 0 blueTokens blue) (alphaReads : Reads 0 alphaTokens alpha) :
    ReadsAtom
      (head :: opening :: redTokens ++ firstComma :: greenTokens
        ++ secondComma :: blueTokens ++ thirdComma :: alphaTokens ++ [closing])
      (.color red green blue alpha (head.span.through closing.span)) := by
  refine readsAtom_of_construct
    (redTokens ++ firstComma :: greenTokens ++ secondComma :: blueTokens
      ++ thirdComma :: alphaTokens ++ [closing])
    headKind openingKind (by rw [headValue]; decide) ?_
  intro depth stream remaining enough
  simp only [List.length_append, List.length_cons, List.length_nil] at enough
  have noBox : StyleBox.ofConstructor? head.value = none := by rw [headValue]; rfl
  simp only [List.append_assoc, List.cons_append, List.nil_append]
  rw [construct, expect_pass openingKind]
  simp only [noBox]
  rw [redReads.followed (by omega) firstKind (by decide),
    greenReads.followed (by omega) secondKind (by decide),
    blueReads.upTo (by omega) (cannotExtend_of_kind (by simp [thirdKind])),
    peek_pass]
  simp only [thirdKind, beq_self_eq_true, if_true]
  rw [next_pass, alphaReads.followed (by omega) closingKind (by decide)]
  simp [bind_apply, pure_apply, Span.through]

/-- A style without properties is read. -/
theorem readsAtom_plainStyle {box : StyleBox} {head opening closing : Token}
    (headKind : head.kind = .name)
    (headValue : StyleBox.ofConstructor? head.value = some box)
    (openingKind : opening.kind = .leftParen)
    (closingKind : closing.kind = .rightParen) :
    ReadsAtom [head, opening, closing]
      (.style box none (head.span.through closing.span)) := by
  refine readsAtom_of_construct ([closing]) headKind openingKind
    (by simp [isConstructor, headValue]) ?_
  intro depth stream remaining enough
  rw [construct, expect_pass openingKind]
  simp only [headValue, List.cons_append, List.nil_append]
  rw [peek_pass]
  simp only [closingKind, beq_self_eq_true, if_true]
  rw [next_pass]
  simp [bind_apply, pure_apply, Span.through]

/-- A style is read with the expression of its properties. -/
theorem readsAtom_style {tokens : List Token} {properties : Expr}
    {box : StyleBox} {head opening closing : Token}
    (headKind : head.kind = .name)
    (headValue : StyleBox.ofConstructor? head.value = some box)
    (openingKind : opening.kind = .leftParen)
    (closingKind : closing.kind = .rightParen)
    (reads : Reads 0 tokens properties) :
    ReadsAtom (head :: opening :: tokens ++ [closing])
      (.style box (some properties) (head.span.through closing.span)) := by
  refine readsAtom_of_construct (tokens ++ [closing]) headKind openingKind
    (by simp [isConstructor, headValue]) ?_
  intro depth stream remaining enough
  simp only [List.length_append, List.length_cons, List.length_nil] at enough
  have notClosing :=
    reads.notClosing (stream.pass [head, opening]
      (tokens ++ closing :: remaining)) closingKind rfl
  rw [construct, expect_pass openingKind]
  simp only [headValue, List.append_assoc, List.cons_append, List.nil_append]
  rw [bind_apply, peek_apply]
  simp only [beq_iff_eq, notClosing, if_false]
  rw [reads.followed (by omega) closingKind (by decide)]
  simp [bind_apply, pure_apply, Span.through]

/-! ## Object literals -/

theorem readsEntries_nil : ReadsEntries [] [] := by
  intro depth before closing stream remaining enough upcoming closingKind _
  obtain ⟨depth, rfl⟩ : ∃ fewer, depth = fewer + 1 := ⟨depth - 1, by omega⟩
  rw [objectEntries_closing
    (by rw [TokenStream.head_of_upcoming upcoming, closingKind]),
    TokenStream.tail_of_upcoming upcoming, List.append_nil]
  rfl

/-- A key that is distinct from the ones before it does not occur among them. -/
theorem not_any_of_nodup {before others : List (String × Expr)} {key : String}
    {value : Expr}
    (distinct : ((before ++ (key, value) :: others).map Prod.fst).Nodup) :
    before.any (·.1 == key) = false := by
  rw [List.any_eq_false]
  intro entry member equal
  rw [List.map_append, List.nodup_append] at distinct
  exact distinct.2.2 entry.1 (List.mem_map_of_mem member) key List.mem_cons_self
    (beq_iff_eq.mp equal)

/-- The last entry of an object is read. -/
theorem readsEntries_last {tokens : List Token} {value : Expr} {key colon : Token}
    (keyKind : key.kind = .name ∨ key.kind = .component ∨ key.kind = .text)
    (colonKind : colon.kind = .colon) (reads : Reads 0 tokens value) :
    ReadsEntries (key :: colon :: tokens) [(key.value, value)] := by
  intro depth before closing stream remaining enough upcoming closingKind distinct
  simp only [List.length_cons] at enough
  obtain ⟨depth, rfl⟩ : ∃ fewer, depth = fewer + 1 := ⟨depth - 1, by omega⟩
  have isHead : stream.head = key := TokenStream.head_of_upcoming upcoming
  have stops : CannotExtend tokens closing :=
    cannotExtend_of_kind (by simp [closingKind])
  rw [objectEntries_key (by rw [isHead]; exact keyKind), isHead,
    TokenStream.tail_of_upcoming upcoming, List.append_eq, List.cons_append,
    expect_pass colonKind, reads.upTo (by omega) stops]
  simp only [not_any_of_nodup distinct, Bool.false_eq_true, if_false]
  rw [peek_pass]
  simp only [closingKind, show (TokenKind.rightBrace == TokenKind.comma) = false
    from rfl, Bool.false_eq_true, if_false]
  rw [expect_pass closingKind]
  simp [pure_apply]

/-- An entry is read before the others after it. -/
theorem readsEntries_cons {tokens otherTokens : List Token} {value : Expr}
    {others : List (String × Expr)} {key colon comma : Token}
    (keyKind : key.kind = .name ∨ key.kind = .component ∨ key.kind = .text)
    (colonKind : colon.kind = .colon) (commaKind : comma.kind = .comma)
    (reads : Reads 0 tokens value) (othersRead : ReadsEntries otherTokens others) :
    ReadsEntries (key :: colon :: tokens ++ comma :: otherTokens)
      ((key.value, value) :: others) := by
  intro depth before closing stream remaining enough upcoming closingKind distinct
  simp only [List.length_append, List.length_cons] at enough
  obtain ⟨depth, rfl⟩ : ∃ fewer, depth = fewer + 1 := ⟨depth - 1, by omega⟩
  have upcoming : stream.upcoming =
        key :: colon :: (tokens ++ comma ::
          (otherTokens ++ closing :: remaining)) := by
    simpa using upcoming
  have isHead : stream.head = key := TokenStream.head_of_upcoming upcoming
  have stops : CannotExtend tokens comma :=
    cannotExtend_of_kind (by simp [commaKind])
  rw [objectEntries_key (by rw [isHead]; exact keyKind), isHead,
    TokenStream.tail_of_upcoming upcoming, expect_pass colonKind,
      reads.upTo (by omega) stops]
  simp only [not_any_of_nodup distinct, Bool.false_eq_true, if_false]
  rw [peek_pass]
  simp only [commaKind, beq_self_eq_true, if_true]
  rw [next_pass, othersRead depth _ closing _ remaining (by omega) rfl
    closingKind (by simpa using distinct)]
  simp

/-- An object is read from its entries, if their keys are distinct. -/
theorem readsAtom_object {tokens : List Token} {entries : List (String × Expr)}
    {opening closing : Token} (openingKind : opening.kind = .leftBrace)
    (closingKind : closing.kind = .rightBrace) (reads : ReadsEntries tokens entries)
    (distinct : (entries.map Prod.fst).Nodup) :
    ReadsAtom (opening :: tokens ++ [closing])
      (.object entries (opening.span.through closing.span)) := by
  refine readsAtom_of_head (tokens ++ [closing]) (by rw [openingKind]; rfl) ?_
  intro depth stream remaining enough upcoming
  simp only [List.length_append, List.length_cons, List.length_nil] at enough
  have entriesRead :=
    reads depth [] closing
      (stream.pass [opening] (tokens ++ closing :: remaining)) remaining
      (by omega) rfl closingKind (by simpa using distinct)
  rw [operandAt]
  simp only [bind_apply next, next_apply, TokenStream.head_of_upcoming upcoming,
    openingKind]
  rw [TokenStream.tail_of_upcoming upcoming, List.append_assoc,
    List.singleton_append, bind_apply, entriesRead]
  simp [bind_apply, pure_apply, Span.through]

/-! ## All derivations -/

mutual

/-- Whatever a layer derives is read. -/
theorem Derives.reads {layer : Nat} {tokens : List Token} {expr : Expr} :
    Derives layer tokens expr → Reads layer tokens expr
  | .infixOp _ _ kind symbol leftDerived rightDerived =>
      reads_infixOp kind symbol rightDerived.tokens_ne_nil leftDerived.reads
        rightDerived.reads
  | .tighter _ derived => derived.reads.loosen
  | .prefixOp _ _ kind symbol derived =>
      reads_prefixOp kind symbol derived.tokens_ne_nil derived.reads
  | .group _ _ openingKind closingKind derived =>
      reads_group openingKind closingKind derived.reads
  | .atom derived => reads_atom (Derives.atom derived).tokens_ne_nil derived.reads

/-- Whatever atom is derived is read. -/
theorem DerivesAtom.reads {tokens : List Token} {expr : Expr} :
    DerivesAtom tokens expr → ReadsAtom tokens expr
  | .text token kind =>
      readsAtom_of_token (by rw [kind]; rfl) fun isHead => by
        rw [operandAt]
        simp only [bind_apply, next_apply, isHead, kind, pure_apply]
  | .integer token value kind reads =>
      readsAtom_of_token (by rw [kind]; rfl) fun isHead => by
        rw [operandAt]
        simp only [bind_apply, next_apply, isHead, kind, reads, pure_apply]
  | .float token value kind reads =>
      readsAtom_of_token (by rw [kind]; rfl) fun isHead => by
        rw [operandAt]
        simp only [bind_apply, next_apply, isHead, kind, reads, pure_apply]
  | .boolean token kind =>
      readsAtom_of_token (by rw [kind]; rfl) fun isHead => by
        rw [operandAt]
        simp only [bind_apply, next_apply, isHead, kind, pure_apply]
  | .null token kind =>
      readsAtom_of_token (by rw [kind]; rfl) fun isHead => by
        rw [operandAt]
        simp only [bind_apply, next_apply, isHead, kind, pure_apply]
  | .reference derived => readsAtom_reference derived
  | .resource _ _ _ headKind openingKind closingKind derived =>
      readsAtom_resource headKind openingKind closingKind derived.reads
  | .vec2 _ _ _ _ headKind openingKind commaKind closingKind xDerived yDerived =>
      readsAtom_vec2 headKind openingKind commaKind closingKind xDerived.reads
        yDerived.reads
  | .solidColor _ _ _ _ _ headKind headValue openingKind firstKind secondKind
      closingKind redDerived greenDerived blueDerived =>
      readsAtom_solidColor headKind headValue openingKind firstKind secondKind
        closingKind redDerived.reads greenDerived.reads blueDerived.reads
  | .color _ _ _ _ _ _ headKind headValue openingKind firstKind secondKind
      thirdKind closingKind redDerived greenDerived blueDerived alphaDerived =>
      readsAtom_color headKind headValue openingKind firstKind secondKind
        thirdKind closingKind redDerived.reads greenDerived.reads
        blueDerived.reads alphaDerived.reads
  | .plainStyle _ _ _ _ headKind headValue openingKind closingKind =>
      readsAtom_plainStyle headKind headValue openingKind closingKind
  | .style _ _ _ _ headKind headValue openingKind closingKind derived =>
      readsAtom_style headKind headValue openingKind closingKind derived.reads
  | .object _ _ openingKind closingKind derived distinct =>
      readsAtom_object openingKind closingKind derived.reads distinct

/-- Whatever entries are derived are read. -/
theorem DerivesEntries.reads {tokens : List Token}
    {entries : List (String × Expr)} :
    DerivesEntries tokens entries → ReadsEntries tokens entries
  | .nil => readsEntries_nil
  | .last _ _ keyKind colonKind derived =>
    readsEntries_last keyKind colonKind derived.reads
  | .cons _ _ _ keyKind colonKind commaKind derived othersDerived =>
      readsEntries_cons keyKind colonKind commaKind derived.reads
        othersDerived.reads

end

end LiveMarkup.Grammar
