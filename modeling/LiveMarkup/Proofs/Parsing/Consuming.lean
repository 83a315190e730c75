import LiveMarkup.Proofs.Parsing.Contracts
import LiveMarkup.Proofs.Parsing.Turns

/-!
# Every turn takes tokens

Here is what a call may be given on a token list, and what it gives.  A turn
keeps to it if the calls do that it makes, and these come below it: a call that
is made before a token is taken is of a lower rank.  So all that a turn does
depends on calls below.

Errors are reported where tokens are, some of them read long ago: at the place
of an earlier key, or at that of a value.  Therefore the contracts say of values
that they begin where a token does.
-/

namespace LiveMarkup

/-- Where the expression begins that a waiting operator makes. -/
def Pending.position : Pending → Position
  | .prefixOp _ span => span.position
  | .infixOp _ left => left.span.position

/-- The entries of a body are where tokens are. -/
structure Body.Located (tokens : List Token) (body : Body) : Prop where
  properties : ∀ property ∈ body.properties,
      LiveMarkup.Located tokens property.span.position
  signals : ∀ signal ∈ body.signals, LiveMarkup.Located tokens signal.span.position

section Pending

variable {tokens : List Token} {pending : List Pending} {operand left : Expr}

theorem Pending.position_complete (waiting : Pending) (right : Expr) :
    (waiting.complete right).span.position = waiting.position := by
  cases waiting <;> rfl

/-- An operand that waiting operators are applied to makes an expression that
begins at a token. -/
theorem located_completeAll
    (waits : ∀ waiting ∈ pending, Located tokens waiting.position)
    (located : Located tokens operand.span.position) :
    Located tokens (Pending.completeAll pending operand).span.position := by
  induction pending generalizing operand with
  | nil => exact located
  | cons waiting others hypothesis =>
    refine hypothesis (fun other member =>
      waits other (List.mem_cons_of_mem _ member)) ?_
    rw [waiting.position_complete]
    exact waits waiting (List.mem_cons_self ..)

/-- Operands and what waits for them are located where tokens are. -/
theorem located_pushInfix (op : InfixOp)
    (waits : ∀ waiting ∈ pending, Located tokens waiting.position)
    (located : Located tokens left.span.position) :
    ∀ waiting ∈ Pending.pushInfix op pending left,
      Located tokens waiting.position := by
  induction pending generalizing left with
  | nil =>
    intro waiting member
    rw [List.mem_singleton.mp member]
    exact located
  | cons waiting others hypothesis =>
    have first := waits waiting (List.mem_cons_self ..)
    rw [Pending.pushInfix]
    split
    · refine hypothesis (fun other member =>
        waits other (List.mem_cons_of_mem _ member)) ?_
      rw [waiting.position_complete]
      exact first
    · intro other member
      rcases List.mem_cons.mp member with rfl | member
      · exact located
      · exact waits other member

end Pending

namespace Parser

namespace Call

/-- What a call may be given on a stream of a token list. -/
def Given (tokens : List Token) {α : Type} : Call α → TokenStream → Prop
  | .chain start base, _ =>
    Located tokens start.position ∧ Located tokens base.span.position
  | .level pending operand, _ =>
    (∀ waiting ∈ pending, Located tokens waiting.position) ∧
      ∀ expr ∈ operand, Located tokens expr.span.position
  | .operandAt, stream => stream.head.kind.beginsOperand = true
  | .construct name, _ => Located tokens name.span.position
  | .entries collected, stream =>
    (stream.head.kind = .name ∨ stream.head.kind = .signalName) ∧
      collected.Located tokens
  | .body collected, _ => collected.Located tokens
  | .loop, stream => stream.head.kind = .each
  | _, _ => True

/-- What a call on a token list gives. -/
def Gives (tokens : List Token) {α : Type} : Call α → α → Prop
  | .chain _ _, target => Located tokens target.span.position
  | .level _ _, given =>
    (∀ waiting ∈ given.1, Located tokens waiting.position) ∧
      ∀ expr ∈ given.2, Located tokens expr.span.position
  | .expression, expr => Located tokens expr.span.position
  | .operandAt, expr => Located tokens expr.span.position
  | .construct _, expr => Located tokens expr.span.position
  | .entries _, collected => collected.Located tokens
  | .body _, collected => collected.Located tokens
  | _, _ => True

/-- A call leaves fewer tokens than this.  Those that begin with a token leave
one token less than there were. -/
def limit {α : Type} : Call α → TokenStream → Nat
  | .operandAt, stream => stream.upcoming.length
  | .construct _, stream => stream.upcoming.length
  | .entries _, stream => stream.upcoming.length
  | .component, stream => stream.upcoming.length
  | .loop, stream => stream.upcoming.length
  | _, stream => stream.upcoming.length + 1

/-- Two ways to make calls have the same outcome, within the contracts, for all
calls below one. -/
def Agree (tokens : List Token) {α : Type} (call : Call α) (stream : TokenStream)
    (calls others : Calls) : Prop :=
  ∀ {β : Type} (other : Call β) (later : TokenStream), later.Stands tokens →
    other.Given tokens later → other.Below later call stream →
    Meets tokens (other.Gives tokens) (other.limit later) (calls other)
    (others other) later

variable {tokens : List Token} {α β : Type} {call : Call α}
  {stream later : TokenStream} {calls others : Calls}

/-- The last call of a turn does what the turn has to. -/
theorem Agree.last (agree : Agree tokens call stream calls others)
    (other : Call β) (stands : later.Stands tokens)
    (given : other.Given tokens later) (below : other.Below later call stream)
    {limit : Nat} (narrower : other.limit later ≤ limit) {gives : β → Prop}
    (weaker : ∀ value, other.Gives tokens value → gives value) :
    Meets tokens gives limit (calls other) (others other) later :=
  (agree other later stands given below).mono narrower weaker

/-- A call before the end of a turn is followed by the rest of the turn. -/
theorem Agree.bind (agree : Agree tokens call stream calls others)
    (other : Call β) (stands : later.Stands tokens)
    (given : other.Given tokens later) (below : other.Below later call stream)
    {limit : Nat} {γ : Type} {promises : γ → Prop}
    {first second : β → Parser γ}
    (after :
      ∀ value rest,
        rest.Stands tokens → other.Gives tokens value →
        rest.upcoming.length < other.limit later →
        Meets tokens promises limit (first value) (second value) rest) :
    Meets tokens promises limit (calls other >>= first)
      (others other >>= second) later :=
  (agree other later stands given below).bind after

/-- The turn of a call has the same outcome, within the contract, for two ways
to make calls. -/
def Keeps (tokens : List Token) {α : Type} (call : Call α)
    (stream : TokenStream) (calls others : Calls) : Prop :=
  Meets tokens (call.Gives tokens) (call.limit stream) (call.turn .none calls)
    (call.turn .none others) stream

end Call

variable {tokens : List Token} {stream : TokenStream} {calls others : Calls}

section Expressions

/-- One turn of the imports keeps to what such a turn has to do. -/
theorem importsTurn_keeps {collected : List Import} (stands : stream.Stands tokens)
    (agree : Call.Agree tokens (.imports collected) stream calls others) :
    Call.Keeps tokens (.imports collected) stream calls others := by
  change Meets _ _ _ (importsTurn calls collected)
    (importsTurn others collected) stream
  unfold importsTurn
  apply Meets.peek
  dsimp only
  split
  case isTrue directive =>
    have plain : stream.head.kind ≠ .endOfInput := by
      intro ends
      rw [ends] at directive
      cases directive
    apply Meets.next stands plain
    intro rest behind fewer
    apply Meets.expect behind (by decide)
    intro name rest _ located behind less
    split
    · exact .fail trivial located
    · exact agree.last (.imports _) behind (by trivial) (.inl (by omega))
        (by simp only [Call.limit]; omega)
        fun _ given => given
  case isFalse => exact .pure stands trivial (Nat.lt_succ_self _)

/-- So does one turn of a chain of properties. -/
theorem chainTurn_keeps {start : Span} {base : Reference}
    (stands : stream.Stands tokens)
    (given : (Call.chain start base).Given tokens stream)
    (agree : Call.Agree tokens (.chain start base) stream calls others) :
    Call.Keeps tokens (.chain start base) stream calls others := by
  change Meets _ _ _ (chainTurn calls start base)
    (chainTurn others start base) stream
  unfold chainTurn
  apply Meets.peek
  split
  case isTrue dot =>
    have plain : stream.head.kind ≠ .endOfInput := by
      rw [beq_iff_eq.mp dot]
      decide
    apply Meets.next stands plain
    intro rest behind fewer
    apply Meets.expect behind (by decide)
    intro name rest _ _ behind less
    have further :
        (Call.chain start (.property base name.value
          (start.through name.span))).Given tokens rest :=
      ⟨given.1, given.1⟩
    exact agree.last _ behind further (.inl (by omega))
      (by simp only [Call.limit]; omega)
      fun _ given => given
  case isFalse => exact .pure stands given.2 (Nat.lt_succ_self _)

/-- A turn of a level that an operand comes next on. -/
theorem levelTurn_atom (calls : Calls) {pending : List Pending}
    (begins : stream.head.kind.beginsOperand = true) :
    levelTurn calls pending none stream =
      (calls .operandAt >>= fun operand =>
        calls (.level pending (some operand))) stream := by
  unfold levelTurn
  cases kind : stream.head.kind <;> simp_all [TokenKind.beginsOperand, bind_apply]

/-- A turn of a level that nothing of the expression comes next on. -/
theorem levelTurn_stop (calls : Calls) {pending : List Pending}
    {operand : Option Expr} (notOperator : stream.head.kind ≠ .operator)
    (notOpening : stream.head.kind ≠ .leftParen)
    (notAtom : operand = none → stream.head.kind.beginsOperand = false) :
    levelTurn calls pending operand stream =
      (pure (pending, operand) : Parser _) stream := by
  unfold levelTurn
  cases operand <;> cases kind : stream.head.kind <;>
    simp_all [TokenKind.beginsOperand, bind_apply, pure_apply]

/-- At the end of an expression everything that waits is completed where it was
located. -/
theorem finish_keeps {pending : List Pending} {operand : Option Expr}
    {limit : Nat} (stands : stream.Stands tokens)
    (waits : ∀ waiting ∈ pending, Located tokens waiting.position)
    (located : ∀ expr ∈ operand, Located tokens expr.span.position)
    (fewer : stream.upcoming.length < limit) :
    Meets tokens (fun expr => Located tokens expr.span.position) limit
      (finish pending operand) (finish pending operand) stream := by
  cases operand with
  | none => exact .unexpected stands _
  | some operand =>
    exact .pure stands (located_completeAll waits (located operand rfl)) fewer

/-- The expression of a level begins at a token, and no token is taken for it. -/
theorem finish_bind {pending : List Pending} {operand : Option Expr}
    {limit : Nat} {γ : Type} {promises : γ → Prop}
    {further other : Expr → Parser γ} (stands : stream.Stands tokens)
    (waits : ∀ waiting ∈ pending, Located tokens waiting.position)
    (located : ∀ expr ∈ operand, Located tokens expr.span.position)
    (after :
      ∀ expr : Expr,
        Located tokens expr.span.position →
        Meets tokens promises limit (further expr) (other expr) stream) :
    Meets tokens promises limit (finish pending operand >>= further)
      (finish pending operand >>= other) stream := by
  cases operand with
  | none => exact ⟨rfl, .refused trivial stands.located⟩
  | some operand =>
    have meets := after _ (located_completeAll waits (located operand rfl))
    exact ⟨meets.same, meets.within⟩

/-- An operator is taken, and the level goes on behind it. -/
theorem levelTurn_operator_keeps {pending : List Pending}
    {operand : Option Expr} (stands : stream.Stands tokens)
    (given : (Call.level pending operand).Given tokens stream)
    (kind : stream.head.kind = .operator)
    (agree : Call.Agree tokens (.level pending operand) stream calls others) :
    Call.Keeps tokens (.level pending operand) stream calls others := by
  obtain ⟨waits, located⟩ := given
  change Meets _ _ _ (levelTurn calls pending operand)
    (levelTurn others pending operand) stream
  have plain : stream.head.kind ≠ .endOfInput := by
    rw [kind]
    decide
  unfold levelTurn
  apply Meets.peek
  rw [kind]
  cases operand with
  | none =>
    apply Meets.next stands plain
    intro rest behind fewer
    cases PrefixOp.ofSymbol? stream.head.value with
    | none => exact .fail trivial stands.located
    | some op =>
      have further :
          (Call.level (.prefixOp op stream.head.span :: pending) none).Given
            tokens rest := by
        refine ⟨fun waiting member => ?_, nofun⟩
        rcases List.mem_cons.mp member with rfl | member
        · exact stands.located
        · exact waits waiting member
      exact agree.last _ behind further (.inl (by omega))
        (by simp only [Call.limit]; omega)
        fun _ given => given
  | some left =>
    apply Meets.next stands plain
    intro rest behind fewer
    cases InfixOp.ofSymbol? stream.head.value with
    | none => exact .fail trivial stands.located
    | some op =>
      have further :
          (Call.level (Pending.pushInfix op pending left) none).Given
            tokens rest :=
        ⟨located_pushInfix op waits (located left rfl), nofun⟩
      exact agree.last _ behind further (.inl (by omega))
        (by simp only [Call.limit]; omega)
        fun _ given => given

/-- A parenthesis is taken with a level of its own, and the level goes on behind
both. -/
theorem levelTurn_opening_keeps {pending : List Pending}
    {operand : Option Expr} (stands : stream.Stands tokens)
    (given : (Call.level pending operand).Given tokens stream)
    (kind : stream.head.kind = .leftParen)
    (agree : Call.Agree tokens (.level pending operand) stream calls others) :
    Call.Keeps tokens (.level pending operand) stream calls others := by
  change Meets _ _ _ (levelTurn calls pending operand)
    (levelTurn others pending operand) stream
  unfold levelTurn
  apply Meets.peek
  rw [kind]
  cases operand with
  | some left => exact .unexpected stands _
  | none =>
    apply Meets.next stands (by rw [kind]; decide)
    intro rest behind fewer
    have inner : (Call.level [] none).Given tokens rest := ⟨nofun, nofun⟩
    apply agree.bind _ behind inner (.inl (by omega))
    rintro ⟨waiting, last⟩ after stands ⟨waits, located⟩ less
    simp only [Call.limit] at less
    apply Meets.peek
    split
    case isFalse => exact .failHere stands trivial
    case isTrue closing =>
      apply finish_bind stands waits located
      intro expr located
      apply Meets.next stands (by rw [beq_iff_eq.mp closing]; decide)
      intro rest behind fewer
      have further :
          (Call.level pending (some expr.inGroup)).Given tokens rest := by
        refine ⟨given.1, ?_⟩
        rintro _ ⟨⟩
        rw [Expr.span_inGroup]
        exact located
      exact agree.last _ behind further (.inl (by omega))
        (by simp only [Call.limit]; omega)
        fun _ given => given

/-- An operand is read by a call below, and the level goes on behind it. -/
theorem levelTurn_atom_keeps {pending : List Pending}
    (stands : stream.Stands tokens)
    (given : (Call.level pending none).Given tokens stream)
    (begins : stream.head.kind.beginsOperand = true)
    (agree : Call.Agree tokens (.level pending none) stream calls others) :
    Call.Keeps tokens (.level pending none) stream calls others := by
  refine Meets.congr (levelTurn_atom calls begins) (levelTurn_atom others begins) ?_
  apply agree.bind .operandAt stands begins (.inr ⟨rfl, Nat.lt_succ_self _⟩)
  intro operand rest behind located fewer
  simp only [Call.limit] at fewer
  have further : (Call.level pending (some operand)).Given tokens rest := by
    refine ⟨given.1, ?_⟩
    rintro _ ⟨⟩
    exact located
  exact agree.last _ behind further (.inl (by omega))
    (by simp only [Call.limit]; omega)
    fun _ given => given

/-- One turn of a level of operators keeps to its contract. -/
theorem levelTurn_keeps {pending : List Pending} {operand : Option Expr}
    (stands : stream.Stands tokens)
    (given : (Call.level pending operand).Given tokens stream)
    (agree : Call.Agree tokens (.level pending operand) stream calls others) :
    Call.Keeps tokens (.level pending operand) stream calls others := by
  by_cases operator : stream.head.kind = .operator
  case pos => exact levelTurn_operator_keeps stands given operator agree
  by_cases opening : stream.head.kind = .leftParen
  case pos => exact levelTurn_opening_keeps stands given opening agree
  by_cases atom : operand = none ∧ stream.head.kind.beginsOperand = true
  case pos =>
    obtain ⟨rfl, begins⟩ := atom
    exact levelTurn_atom_keeps stands given begins agree
  case neg =>
    have stops : operand = none → stream.head.kind.beginsOperand = false := by
      intro same
      simpa [same] using atom
    refine Meets.congr (levelTurn_stop calls operator opening stops)
      (levelTurn_stop others operator opening stops) ?_
    exact .pure stands given (Nat.lt_succ_self _)

/-- So does the turn of an expression. -/
theorem expressionTurn_keeps (stands : stream.Stands tokens)
    (agree : Call.Agree tokens .expression stream calls others) :
    Call.Keeps tokens .expression stream calls others := by
  change Meets _ _ _ (expressionTurn calls) (expressionTurn others) stream
  unfold expressionTurn
  have inner : (Call.level [] none).Given tokens stream := ⟨nofun, nofun⟩
  apply agree.bind _ stands inner (.inr ⟨rfl, by decide⟩)
  rintro ⟨pending, operand⟩ rest behind ⟨waits, located⟩ fewer
  exact finish_keeps behind waits located fewer

/-- An expression is read behind some tokens of a turn, and begins where a token
does. -/
theorem Call.Agree.expression {α γ : Type} {call : Call α}
    (agree : call.Agree tokens stream calls others) {later : TokenStream}
    (stands : later.Stands tokens)
    (fewer : later.upcoming.length < stream.upcoming.length) {limit : Nat}
    {promises : γ → Prop} {first second : Expr → Parser γ}
    (after :
      ∀ (expr : Expr) rest,
        rest.Stands tokens → Located tokens expr.span.position →
        rest.upcoming.length ≤ later.upcoming.length →
        Meets tokens promises limit (first expr) (second expr) rest) :
    Meets tokens promises limit (calls .expression >>= first)
      (others .expression >>= second) later :=
  agree.bind .expression stands trivial (.inl fewer)
    fun expr rest behind located less =>
      after expr rest behind located (Nat.le_of_lt_succ less)

theorem span_firstReference (head : Token) :
    (firstReference head).span = head.span := by
  unfold firstReference
  split <;> rfl

/-- And that of an operand, whichever kind it is of. -/
theorem operandTurn_keeps (stands : stream.Stands tokens)
    (given : Call.operandAt.Given tokens stream)
    (agree : Call.Agree tokens .operandAt stream calls others) :
    Call.Keeps tokens .operandAt stream calls others := by
  have plain : stream.head.kind ≠ .endOfInput := by
    intro ends
    have begins : stream.head.kind.beginsOperand = true := given
    rw [ends] at begins
    cases begins
  have located := stands.located
  change Meets _ _ _ (operandTurn calls) (operandTurn others) stream
  unfold operandTurn
  apply Meets.next stands plain
  intro rest behind fewer
  have referred : Meets tokens (Call.operandAt.Gives tokens)
    (Call.operandAt.limit stream)
      (calls (.chain stream.head.span (firstReference stream.head)) >>=
        fun target =>
          pure (.reference target))
      (others (.chain stream.head.span (firstReference stream.head)) >>=
        fun target =>
          pure (.reference target)) rest := by
    have begins :
        (Call.chain stream.head.span (firstReference stream.head)).Given
          tokens rest := by
      refine ⟨located, ?_⟩
      rw [span_firstReference]
      exact located
    apply agree.bind _ behind begins (.inl (by omega))
    intro target rest behind located less
    simp only [Call.limit] at less
    exact .pure behind located (by simp only [Call.limit]; omega)
  cases kind : stream.head.kind with
  | text => exact .pure behind located (by simp only [Call.limit]; omega)
  | integer =>
    dsimp only
    cases Decimal.readInt? stream.head.value.toList with
    | some value => exact .pure behind located (by simp only [Call.limit]; omega)
    | none => exact .fail trivial located
  | float =>
    dsimp only
    cases Decimal.readFloat? stream.head.value.toList with
    | some value => exact .pure behind located (by simp only [Call.limit]; omega)
    | none => exact .fail trivial located
  | boolean => exact .pure behind located (by simp only [Call.limit]; omega)
  | null => exact .pure behind located (by simp only [Call.limit]; omega)
  | resource =>
    apply Meets.expect behind (by decide)
    intro _ rest _ _ behind less
    apply agree.expression behind (by omega)
    intro path rest behind _ least
    apply Meets.expect behind (by decide)
    intro _ rest _ _ behind less
    apply Meets.lastStop
    exact .pure behind located (by simp only [Call.limit]; omega)
  | vec2 =>
    apply Meets.expect behind (by decide)
    intro _ rest _ _ behind less
    apply agree.expression behind (by omega)
    intro x rest behind _ least
    apply Meets.expect behind (by decide)
    intro _ rest _ _ behind less
    apply agree.expression behind (by omega)
    intro y rest behind _ least
    apply Meets.expect behind (by decide)
    intro _ rest _ _ behind less
    apply Meets.lastStop
    exact .pure behind located (by simp only [Call.limit]; omega)
  | leftBrace =>
    apply agree.bind (.objectEntries []) behind trivial (.inl (by omega))
    intro entries rest behind _ less
    simp only [Call.limit] at less
    apply Meets.lastStop
    exact .pure behind located (by simp only [Call.limit]; omega)
  | name =>
    apply Meets.peek
    split
    · exact agree.last (.construct stream.head) behind located (.inl (by omega))
        (by simp only [Call.limit]; omega) fun _ given => given
    · exact referred
  | _ => exact referred

/-- One entry of an object is read, and less is left than before. -/
theorem objectEntryTurn_keeps {entries : List (String × Expr)}
    (stands : stream.Stands tokens) (plain : stream.head.kind ≠ .endOfInput)
    (agree : Call.Agree tokens (.objectEntries entries) stream calls others) :
    Meets tokens ((Call.objectEntries entries).Gives tokens)
      ((Call.objectEntries entries).limit stream)
      (objectEntryTurn .none calls entries stream.head)
      (objectEntryTurn .none others entries stream.head) stream := by
  have located := stands.located
  unfold objectEntryTurn
  simp only [Converters.none_value_map]
  apply Meets.next stands plain
  intro rest behind fewer
  apply Meets.expect behind (by decide)
  intro _ rest _ _ behind less
  apply agree.expression behind (by omega)
  intro value rest behind _ least
  split
  case isTrue => exact .fail trivial located
  case isFalse =>
    apply Meets.peek
    split
    case isTrue comma =>
      have plain : rest.head.kind ≠ .endOfInput := by
        rw [beq_iff_eq.mp comma]
        decide
      apply Meets.next behind plain
      intro rest behind less
      exact agree.last (.objectEntries _) behind (by trivial) (.inl (by omega))
        (by simp only [Call.limit]; omega) fun _ given => given
    case isFalse =>
      apply Meets.expect behind (by decide)
      intro _ rest _ _ behind less
      exact .pure behind trivial (by simp only [Call.limit]; omega)

/-- The entries of an object keep to their contract. -/
theorem objectEntriesTurn_keeps {entries : List (String × Expr)}
    (stands : stream.Stands tokens)
    (agree : Call.Agree tokens (.objectEntries entries) stream calls others) :
    Call.Keeps tokens (.objectEntries entries) stream calls others := by
  have key {kind : TokenKind} (same : stream.head.kind = kind)
    (plain : kind ≠ .endOfInput) :=
    objectEntryTurn_keeps stands (same ▸ plain) agree
  change Meets _ _ _ (objectEntriesTurn .none calls entries)
    (objectEntriesTurn .none others entries) stream
  unfold objectEntriesTurn
  apply Meets.peek
  cases kind : stream.head.kind with
  | rightBrace =>
    apply Meets.next stands (by rw [kind]; decide)
    intro rest behind fewer
    exact .pure behind trivial (by simp only [Call.limit]; omega)
  | name => exact key kind (by decide)
  | component => exact key kind (by decide)
  | text => exact key kind (by decide)
  | _ => exact .unexpected stands _

/-- So does a constructor with its arguments. -/
theorem constructTurn_keeps {name : Token} (stands : stream.Stands tokens)
    (located : Located tokens name.span.position)
    (agree : Call.Agree tokens (.construct name) stream calls others) :
    Call.Keeps tokens (.construct name) stream calls others := by
  change Meets _ _ _ (constructTurn calls name) (constructTurn others name) stream
  unfold constructTurn
  apply Meets.expect stands (by decide)
  intro _ rest _ _ behind fewer
  cases StyleBox.ofConstructor? name.value with
  | some box =>
    apply Meets.peek
    split
    case isTrue closing =>
      apply Meets.next behind (by rw [beq_iff_eq.mp closing]; decide)
      intro rest behind less
      apply Meets.lastStop
      exact .pure behind located (by simp only [Call.limit]; omega)
    case isFalse =>
      apply agree.expression behind (by omega)
      intro properties rest behind _ least
      apply Meets.expect behind (by decide)
      intro _ rest _ _ behind less
      apply Meets.lastStop
      exact .pure behind located (by simp only [Call.limit]; omega)
  | none =>
    apply agree.expression behind (by omega)
    intro red rest behind _ least
    apply Meets.expect behind (by decide)
    intro _ rest _ _ behind less
    apply agree.expression behind (by omega)
    intro green rest behind _ least
    apply Meets.expect behind (by decide)
    intro _ rest _ _ behind less
    apply agree.expression behind (by omega)
    intro blue rest behind _ least
    apply Meets.peek
    split
    case isTrue comma =>
      apply Meets.next behind (by rw [beq_iff_eq.mp comma]; decide)
      intro rest behind less
      apply agree.expression behind (by omega)
      intro alpha rest behind _ least
      apply Meets.expect behind (by decide)
      intro _ rest _ _ behind less
      apply Meets.lastStop
      exact .pure behind located (by simp only [Call.limit]; omega)
    case isFalse =>
      apply Meets.expect behind (by decide)
      intro _ rest _ _ behind less
      apply Meets.lastStop
      exact .pure behind located (by simp only [Call.limit]; omega)

end Expressions

section Documents

/-- A signal joins the body with a place in the text. -/
theorem addSignal_keeps {collected : Body} {event : String}
    {binding : Binding} {value : Expr} {span : Span}
    (stands : stream.Stands tokens) (placed : collected.Located tokens)
    (valueLocated : Located tokens value.span.position)
    (located : Located tokens span.position) :
    Meets tokens (Body.Located tokens) (stream.upcoming.length + 1)
      (addSignal collected event binding value span)
      (addSignal collected event binding value span) stream := by
  unfold addSignal
  split
  · exact .fail trivial valueLocated
  · split
    · exact .fail trivial located
    · split
      · exact .fail trivial located
      · refine .pure stands ⟨placed.properties, ?_⟩ (Nat.lt_succ_self _)
        intro signal member
        rcases List.mem_append.mp member with before | added
        · exact placed.signals signal before
        · rw [List.mem_singleton.mp added]
          exact located

/-- Adding a property keeps the body within the source, or refuses at a place
of the source. -/
theorem addProperty_keeps {collected : Body} {key : String}
    {binding : Binding} {value : Expr} {span : Span}
    (stands : stream.Stands tokens) (placed : collected.Located tokens)
    (located : Located tokens span.position) :
    Meets tokens (Body.Located tokens) (stream.upcoming.length + 1)
      (addProperty collected key binding value span)
      (addProperty collected key binding value span) stream := by
  unfold addProperty
  split
  · exact .fail trivial located
  · refine .pure stands ⟨?_, placed.signals⟩ (Nat.lt_succ_self _)
    intro property member
    rcases List.mem_append.mp member with before | added
    · exact placed.properties property before
    · rw [List.mem_singleton.mp added]
      exact located

/-- The sign between a key and its value is one token. -/
theorem bindingSign_keeps (stands : stream.Stands tokens) :
    Meets tokens (fun _ => True) stream.upcoming.length bindingSign bindingSign
      stream := by
  unfold bindingSign
  apply Meets.peek
  cases kind : stream.head.kind with
  | colon =>
    apply Meets.next stands (by rw [kind]; decide)
    intro rest behind fewer
    exact .pure behind trivial (by omega)
  | bindAssign =>
    apply Meets.next stands (by rw [kind]; decide)
    intro rest behind fewer
    exact .pure behind trivial (by omega)
  | _ => exact .unexpected stands _

/-- A key with its value is read behind a key, and is some tokens. -/
theorem entryTurn_keeps {collected : Body} (stands : stream.Stands tokens)
    (given : (Call.entries collected).Given tokens stream)
    (agree : Call.Agree tokens (.entries collected) stream calls others) :
    Meets tokens (Body.Located tokens) stream.upcoming.length
      (entryTurn .none calls collected) (entryTurn .none others collected)
      stream := by
  obtain ⟨key, placed⟩ := given
  have located := stands.located
  have plain : stream.head.kind ≠ .endOfInput := by
    rcases key with kind | kind <;> rw [kind] <;> decide
  unfold entryTurn
  simp only [Converters.none_value_map]
  apply Meets.next stands plain
  intro rest behind fewer
  apply (bindingSign_keeps behind).bind
  intro binding rest behind _ less
  apply agree.expression behind (by omega)
  intro value rest behind valueLocated least
  have located :
      Located tokens (stream.head.span.through value.span).position :=
    located
  split
  · refine (addSignal_keeps behind placed valueLocated located).mono ?_
      fun _ given => given
    omega
  · refine (addProperty_keeps behind placed located).mono ?_ fun _ given => given
    omega

/-- One turn over the properties and signals of a body keeps to its contract
when its calls do. -/
theorem entriesTurn_keeps {collected : Body} (stands : stream.Stands tokens)
    (given : (Call.entries collected).Given tokens stream)
    (agree : Call.Agree tokens (.entries collected) stream calls others) :
    Call.Keeps tokens (.entries collected) stream calls others := by
  change Meets _ _ _ (entriesTurn .none calls collected)
    (entriesTurn .none others collected) stream
  unfold entriesTurn
  apply (entryTurn_keeps stands given agree).bind
  intro body rest behind placed fewer
  apply Meets.peek
  split
  case isTrue comma =>
    apply Meets.next behind (by rw [beq_iff_eq.mp comma]; decide)
    intro rest behind less
    apply Meets.peek
    dsimp only
    split
    case isTrue key =>
      have further : (Call.entries body).Given tokens rest := by
        refine ⟨?_, placed⟩
        simpa using key
      exact agree.last _ behind further (.inl (by omega))
        (by simp only [Call.limit]; omega)
        fun _ given => given
    case isFalse => exact .pure behind placed (by simp only [Call.limit]; omega)
  case isFalse => exact .pure behind placed (by simp only [Call.limit]; omega)

/-- One turn over the items of a body keeps to its contract when its calls do.
-/
theorem bodyTurn_keeps {collected : Body} (stands : stream.Stands tokens)
    (placed : collected.Located tokens)
    (agree : Call.Agree tokens (.body collected) stream calls others) :
    Call.Keeps tokens (.body collected) stream calls others := by
  -- A component, a group of keys or a loop has taken tokens when the body goes on.
  have further {after : TokenStream} {wider : Body}
      (behind : after.Stands tokens) (placed : wider.Located tokens)
      (fewer : after.upcoming.length < stream.upcoming.length) :
      Meets tokens (Body.Located tokens) (stream.upcoming.length + 1)
        (calls (.body wider)) (others (.body wider)) after :=
    agree.last (.body wider) behind placed (.inl fewer)
      (by simp only [Call.limit]; omega)
      fun _ given => given
  have child :
      Meets tokens (Body.Located tokens) (stream.upcoming.length + 1)
        (calls .component >>= fun child =>
          calls (.body { collected with children :=
            collected.children ++ [child] }))
        (others .component >>= fun child =>
          others (.body { collected
            with children := collected.children ++ [child] })) stream := by
    apply agree.bind .component stands trivial (.inr ⟨rfl, Nat.zero_lt_succ _⟩)
    intro child rest behind _ fewer
    exact further behind ⟨placed.properties, placed.signals⟩ fewer
  have keys (key : stream.head.kind = .name ∨ stream.head.kind = .signalName) :
      Meets tokens (Body.Located tokens) (stream.upcoming.length + 1)
        (calls (.entries collected) >>= fun collected =>
          calls (.body collected))
        (others (.entries collected) >>= fun collected =>
          others (.body collected)) stream := by
    apply agree.bind (.entries collected) stands ⟨key, placed⟩
      (.inr ⟨rfl, Nat.zero_lt_succ _⟩)
    intro wider rest behind placed fewer
    exact further behind placed fewer
  change Meets _ _ _ (bodyTurn calls collected) (bodyTurn others collected) stream
  unfold bodyTurn
  apply Meets.peek
  cases kind : stream.head.kind with
  | rightBrace => exact .pure stands placed (Nat.lt_succ_self _)
  | endOfInput => exact .failHere stands trivial
  | component => exact child
  | aliasRef => exact child
  | name => exact keys (.inl kind)
  | signalName => exact keys (.inr kind)
  | each =>
    apply agree.bind .loop stands kind (.inr ⟨rfl, Nat.lt_succ_self _⟩)
    intro inner rest behind _ fewer
    exact further behind ⟨placed.properties, placed.signals⟩ fewer
  | _ => exact .unexpected stands _

theorem located_empty : Body.Located tokens {} := ⟨nofun, nofun⟩

/-- Reading the sign that may stand after an alias keeps to its contract. -/
theorem aliasSign?_keeps (stands : stream.Stands tokens) :
    Meets tokens (fun _ => True) (stream.upcoming.length + 1) aliasSign?
      aliasSign? stream := by
  unfold aliasSign?
  apply Meets.peek
  split
  case isTrue sign =>
    have located := stands.located
    apply Meets.next stands (by rw [beq_iff_eq.mp sign]; decide)
    intro rest behind fewer
    apply Meets.expect behind (by decide)
    intro _ rest _ _ behind less
    apply (Meets.declareAlias behind located).bind
    intro _ rest behind _ least
    exact .pure behind trivial (by omega)
  case isFalse => exact .pure stands trivial (Nat.lt_succ_self _)

/-- One component keeps to its contract when the calls it makes do. -/
theorem componentTurn_keeps (stands : stream.Stands tokens)
    (agree : Call.Agree tokens .component stream calls others) :
    Call.Keeps tokens .component stream calls others := by
  change Meets _ _ _ (componentTurn .none calls) (componentTurn .none others) stream
  unfold componentTurn
  apply (aliasSign?_keeps stands).bind
  intro aliasName rest behind _ fewer
  apply Meets.expect behind (by decide)
  intro head rest _ _ behind less
  apply Meets.expect behind (by decide)
  intro _ rest _ _ behind least
  apply agree.bind (.body {}) behind located_empty (.inl (by omega))
  intro content rest behind _ shorter
  simp only [Call.limit] at shorter
  apply Meets.expect behind (by decide)
  intro closing rest _ _ behind last
  exact .pure behind trivial (by simp only [Call.limit]; omega)

/-- One each-block keeps to its contract when the calls it makes do. -/
theorem loopTurn_keeps (stands : stream.Stands tokens)
    (each : stream.head.kind = .each)
    (agree : Call.Agree tokens .loop stream calls others) :
    Call.Keeps tokens .loop stream calls others := by
  change Meets _ _ _ (loopTurn calls) (loopTurn others) stream
  unfold loopTurn
  apply Meets.next stands (by rw [each]; decide)
  intro rest behind fewer
  apply agree.expression behind (by omega)
  intro source rest behind _ less
  apply Meets.expect behind (by decide)
  intro _ rest _ _ behind _
  apply Meets.expect behind (by decide)
  intro itemType rest _ _ behind _
  apply Meets.expect behind (by decide)
  intro _ rest _ _ behind _
  apply Meets.expect behind (by decide)
  intro _ rest _ _ behind _
  apply Meets.expect behind (by decide)
  intro indexName rest _ _ behind _
  apply Meets.expect behind (by decide)
  intro _ rest _ _ behind _
  apply Meets.expect behind (by decide)
  intro valueName rest _ _ behind _
  apply Meets.expect behind (by decide)
  intro _ rest _ _ behind _
  apply agree.bind (.body {}) behind located_empty (.inl (by omega))
  intro content rest behind placed shorter
  simp only [Call.limit] at shorter
  apply Meets.expect behind (by decide)
  intro closing rest _ _ behind last
  split
  next property _ same =>
    exact .fail trivial
      (placed.properties property (by rw [same]; exact List.mem_cons_self ..))
  next signal _ _ same =>
    exact .fail trivial
      (placed.signals signal (by rw [same]; exact List.mem_cons_self ..))
  next => exact .pure behind trivial (by simp only [Call.limit]; omega)

/-- Reading the directive that names the controller keeps to its contract. -/
theorem controllerDirective?_keeps (stands : stream.Stands tokens) :
    Meets tokens (fun _ => True) (stream.upcoming.length + 1)
      controllerDirective? controllerDirective? stream := by
  unfold controllerDirective?
  apply Meets.peek
  split
  case isTrue directive =>
    apply Meets.next stands (by rw [beq_iff_eq.mp directive]; decide)
    intro rest behind fewer
    apply Meets.expect behind (by decide)
    intro name rest _ _ behind less
    exact .pure behind trivial (by omega)
  case isFalse => exact .pure stands trivial (Nat.lt_succ_self _)

/-- A whole document keeps to its contract when the calls it makes do. -/
theorem documentTurn_keeps (stands : stream.Stands tokens)
    (agree : Call.Agree tokens .document stream calls others) :
    Call.Keeps tokens .document stream calls others := by
  change Meets _ _ _ (documentTurn calls) (documentTurn others) stream
  unfold documentTurn
  apply agree.bind (.imports []) stands trivial (.inr ⟨rfl, Nat.zero_lt_succ _⟩)
  intro imports rest behind _ fewer
  simp only [Call.limit] at fewer
  apply (controllerDirective?_keeps behind).bind
  intro controller rest behind _ less
  apply Meets.peek
  split
  case isTrue => exact .failHere behind trivial
  case isFalse =>
    have below : Call.component.Below rest .document stream := by
      rcases Nat.lt_or_eq_of_le
        (Nat.le_of_lt_succ (Nat.lt_of_lt_of_le less fewer)) with fewer | same
      · exact .inl fewer
      · exact .inr ⟨same, Nat.zero_lt_succ _⟩
    apply agree.bind .component behind trivial below
    intro root rest behind _ least
    simp only [Call.limit] at least
    apply Meets.peek
    split
    case isTrue =>
      apply Meets.get
      exact .pure behind trivial (by simp only [Call.limit]; omega)
    case isFalse => exact .unexpected behind _

theorem soleExpressionTurn_keeps (stands : stream.Stands tokens)
    (agree : Call.Agree tokens .soleExpression stream calls others) :
    Call.Keeps tokens .soleExpression stream calls others := by
  change Meets _ _ _ (soleExpressionTurn .none calls)
    (soleExpressionTurn .none others) stream
  unfold soleExpressionTurn
  simp only [Converters.none_value_map]
  have below : Call.expression.rank < Call.soleExpression.rank := by decide
  apply agree.bind .expression stands trivial (.inr ⟨rfl, below⟩)
  intro expr rest behind _ fewer
  apply Meets.peek
  split
  case isTrue => exact .pure behind trivial fewer
  case isFalse => exact .unexpected behind _

end Documents

/-- Every turn has the same outcome for two ways to make calls that agree below
it, and keeps to its contract if these do. -/
theorem Call.turn_keeps {α : Type} (call : Call α)
    (stands : stream.Stands tokens) (given : call.Given tokens stream)
    (agree : call.Agree tokens stream calls others) :
    call.Keeps tokens stream calls others := by
  cases call with
  | imports collected => exact importsTurn_keeps stands agree
  | chain start base => exact chainTurn_keeps stands given agree
  | level pending operand => exact levelTurn_keeps stands given agree
  | expression => exact expressionTurn_keeps stands agree
  | operandAt => exact operandTurn_keeps stands given agree
  | objectEntries collected => exact objectEntriesTurn_keeps stands agree
  | construct name => exact constructTurn_keeps stands given agree
  | entries collected => exact entriesTurn_keeps stands given agree
  | body collected => exact bodyTurn_keeps stands given agree
  | component => exact componentTurn_keeps stands agree
  | loop => exact loopTurn_keeps stands given agree
  | document => exact documentTurn_keeps stands agree
  | soleExpression => exact soleExpressionTurn_keeps stands agree

end Parser

end LiveMarkup
