import Mathlib
import LiveMarkup.Proofs.Operators.Rereading
import LiveMarkup.Proofs.Places.Bare

/-!
# Integer expressions

An expression of integers gives the result that it has over all integers, or an
error that names what went wrong first: a divisor that is zero, or a result
that does not fit into 64 bits.  No result is ever wrapped.

The least integer divided by minus one is the one corner.  Its quotient does not
fit, and the remainder, which would be zero, is refused along with it.
-/

namespace LiveMarkup

variable {σ : Type}

/-! ## Expressions of integers -/

/-- The operators before an integer that give an integer. -/
inductive Sign where
  | plus
  | minus

def Sign.op : Sign → PrefixOp
  | .plus => .plus
  | .minus => .minus

/-- The operators between integers that give an integer. -/
inductive IntegerOp where
  | add
  | sub
  | mul
  | rem

def IntegerOp.op : IntegerOp → InfixOp
  | .add => .add
  | .sub => .sub
  | .mul => .mul
  | .rem => .rem

/-- An expression of integers: literals and references, and operators that give
integers. -/
inductive IntegerTree where
  | literal (value : Int) (fits : Decimal.fitsWord value = true) (span : Span)
  | read (target : Reference)
  | signed (sign : Sign) (right : IntegerTree) (grouped : Bool) (span : Span)
  | combined (op : IntegerOp) (left right : IntegerTree) (grouped : Bool)
      (span : Span)

namespace IntegerTree

/-- An expression of integers among all expressions. -/
def expr : IntegerTree → Expr
  | .literal value _ span => .int value span
  | .read target => .reference target
  | .signed sign right grouped span => .applyPrefix sign.op right.expr grouped span
  | .combined op left right grouped span =>
    .applyInfix op.op left.expr right.expr grouped span

/-- The references of an expression. -/
def targets : IntegerTree → List Reference
  | .literal _ _ _ => []
  | .read target => [target]
  | .signed _ right _ _ => right.targets
  | .combined _ left right _ _ => left.targets ++ right.targets

end IntegerTree

/-! ## Calculating with all integers -/

/-- What goes wrong in a calculation with integers. -/
inductive IntegerFault where
  | zeroDivisor
  | outOfRange

/-- A result, provided that it fits into 64 bits. -/
def fitted (result : Int) : Except IntegerFault Int :=
  if Decimal.fitsWord result then .ok result else .error .outOfRange

/-- The remainder of a division that truncates toward zero. -/
def plainRemainder (left right : Int) : Except IntegerFault Int :=
  fitted (left.tmod right)

/-- The same remainder, refused where the quotient of the division does not fit:
for the least integer and minus one. -/
def guardedRemainder (left right : Int) : Except IntegerFault Int :=
  if left = -9223372036854775808 ∧ right = -1 then .error .outOfRange
    else plainRemainder left right

def Sign.exactly (value : Int) : Sign → Except IntegerFault Int
  | .plus => .ok value
  | .minus => fitted (-value)

def IntegerOp.exactly (remainder : Int → Int → Except IntegerFault Int)
    (left right : Int) : IntegerOp → Except IntegerFault Int
  | .add => fitted (left + right)
  | .sub => fitted (left - right)
  | .mul => fitted (left * right)
  | .rem => if right = 0 then .error .zeroDivisor else remainder left right

/-- The value of an expression over all integers, or what goes wrong first, from
left to right. -/
def IntegerTree.exactly (remainder : Int → Int → Except IntegerFault Int)
    (reads : Reference → Int) : IntegerTree → Except IntegerFault Int
  | .literal value _ _ => .ok value
  | .read target => .ok (reads target)
  | .signed sign right _ _ => do sign.exactly (← right.exactly remainder reads)
  | .combined op left right _ _ => do
    let left ← left.exactly remainder reads
    let right ← right.exactly remainder reads
    op.exactly remainder left right

/-- An evaluation answers as a calculation does. -/
def Answers (outcome : Except UiError Value) : Except IntegerFault Int → Prop
  | .ok value => outcome = .ok (.int value)
  | .error .zeroDivisor => outcome = .error .divisionByZero
  | .error .outOfRange => ∃ problem, outcome = .error (.type problem)

/-- A reference gives an integer of 64 bits. -/
structure GivesInteger (context : EvaluationContext) (world : World σ)
    (reads : Reference → Int) (target : Reference) : Prop where
  gives : ((context.resolve target).run world).1 = .ok (.int (reads target))
  fits : Decimal.fitsWord (reads target) = true

/-! ## One operator -/

/-- What is calculated fits into 64 bits. -/
def Fitting (exact : Except IntegerFault Int) : Prop :=
  ∀ value, exact = .ok value → Decimal.fitsWord value = true

theorem fitted_fitting (result : Int) : Fitting (fitted result) := by
  intro value same
  unfold fitted at same
  split at same
  case isTrue fits =>
    cases same
    exact fits
  case isFalse => cases same

theorem guardedRemainder_fitting (left right : Int) :
    Fitting (guardedRemainder left right) := by
  unfold guardedRemainder
  split
  · exact fun _ same => by cases same
  · exact fitted_fitting _

/-- What a sign gives fits, if it gives a number at all. -/
theorem Sign.exactly_fitting {value : Int}
    (fits : Decimal.fitsWord value = true) (sign : Sign) :
    Fitting (sign.exactly value) := by
  cases sign with
  | plus =>
    intro result same
    cases same
    exact fits
  | minus => exact fitted_fitting _

/-- So does what an operation gives. -/
theorem IntegerOp.exactly_fitting (op : IntegerOp) (left right : Int) :
    Fitting (op.exactly guardedRemainder left right) := by
  cases op with
  | add => exact fitted_fitting _
  | sub => exact fitted_fitting _
  | mul => exact fitted_fitting _
  | rem =>
    rw [IntegerOp.exactly]
    by_cases zero : right = 0
    · rw [if_pos zero]
      exact fun _ same => by cases same
    · rw [if_neg zero]
      exact guardedRemainder_fitting left right

theorem fitsWord_iff {value : Int} :
    Decimal.fitsWord value = true ↔
      -9223372036854775808 ≤ value ∧ value ≤ 9223372036854775807 := by
  simp [Decimal.fitsWord]

/-- A remainder is smaller than the divisor. -/
theorem fitsWord_tmod (left : Int) {right : Int}
    (fits : Decimal.fitsWord right = true) (nonzero : right ≠ 0) :
    Decimal.fitsWord (left.tmod right) = true := by
  rw [fitsWord_iff] at fits ⊢
  have size : (left.tmod right).natAbs = left.natAbs % right.natAbs :=
    Int.natAbs_tmod left right
  have small := Nat.mod_lt left.natAbs (Int.natAbs_pos.mpr nonzero)
  omega

/-- Only the least integer has a quotient that does not fit, by minus one. -/
theorem fitsWord_tdiv {left right : Int} (fits : Decimal.fitsWord left = true)
    (nonzero : right ≠ 0) :
    Decimal.fitsWord (left.tdiv right) = true ↔
      ¬ (left = -9223372036854775808 ∧ right = -1) := by
  rw [fitsWord_iff] at fits ⊢
  have size : (left.tdiv right).natAbs = left.natAbs / right.natAbs :=
    Int.natAbs_tdiv left right
  by_cases unit : right = -1
  · have negated : left.tdiv right = -left := by
      rw [unit, Int.tdiv_neg, Int.tdiv_one]
    omega
  · by_cases one : right = 1
    · have same : left.tdiv right = left := by rw [one, Int.tdiv_one]
      omega
    · have halved : left.natAbs / right.natAbs ≤ left.natAbs / 2 :=
        Nat.div_le_div_left (by omega) (by decide)
      omega

/-- A result that is checked answers as the result that is fitted. -/
theorem answers_fitted {result : Int} {problem : TypeProblem} :
    Answers (if Decimal.fitsWord result then .ok (.int result)
      else .error (.type problem)) (fitted result) := by
  unfold fitted
  split
  · rfl
  · exact ⟨problem, rfl⟩

theorem answers_applyPrefix (world : World σ) (sign : Sign) (value : Int) :
    Answers (world.applyPrefix sign.op (.int value)) (sign.exactly value) := by
  cases sign with
  | plus => rfl
  | minus => exact answers_fitted

/-- The operator of the program gives the exact value, or its error names why
there is none. -/
theorem answers_applyInfix (world : World σ) (op : IntegerOp)
    {left right : Int} (leftFits : Decimal.fitsWord left = true)
    (rightFits : Decimal.fitsWord right = true) :
    Answers (world.applyInfix op.op (.int left) (.int right))
      (op.exactly guardedRemainder left right) := by
  cases op with
  | add => exact answers_fitted
  | sub => exact answers_fitted
  | mul => exact answers_fitted
  | rem =>
    change Answers (World.calculateInts .rem left right) _
    simp only [World.calculateInts, IntegerOp.exactly, beq_iff_eq]
    by_cases zero : right = 0
    · rw [if_pos zero, if_pos zero]
      rfl
    · rw [if_neg zero, if_neg zero, guardedRemainder]
      have quotient := fitsWord_tdiv leftFits zero
      by_cases corner : left = -9223372036854775808 ∧ right = -1
      · rw [if_pos corner, if_neg (by rw [quotient]; exact not_not.mpr corner)]
        exact ⟨_, rfl⟩
      · rw [if_neg corner, if_pos (quotient.mpr corner), plainRemainder, fitted,
          if_pos (fitsWord_tmod left rightFits zero)]
        rfl

/-! ## A whole expression -/

/-- So does what a tree gives, if the values of its references fit. -/
theorem IntegerTree.exactly_fitting {reads : Reference → Int} (tree : IntegerTree)
    (given : ∀ target ∈ tree.targets, Decimal.fitsWord (reads target) = true) :
    Fitting (tree.exactly guardedRemainder reads) := by
  induction tree with
  | literal value fits span =>
    intro result same
    cases same
    exact fits
  | read target =>
    intro result same
    cases same
    exact given target (List.mem_singleton_self target)
  | signed sign right grouped span hypothesis =>
    intro result same
    rw [exactly] at same
    cases found : right.exactly guardedRemainder reads with
    | error fault =>
      rw [found] at same
      cases same
    | ok value =>
      rw [found] at same
      exact sign.exactly_fitting (hypothesis given value found) result same
  | combined op left right grouped span leftHypothesis rightHypothesis =>
    intro result same
    rw [exactly] at same
    cases found : left.exactly guardedRemainder reads with
    | error fault =>
      rw [found] at same
      cases same
    | ok value =>
      cases other : right.exactly guardedRemainder reads with
      | error fault =>
        rw [found, other] at same
        cases same
      | ok second =>
        rw [found, other] at same
        exact op.exactly_fitting value second result same

/-- What comes after an attempt that answers as a calculation, answers as what
comes after the calculation. -/
theorem Answers.bind {attempt : Attempt σ Value}
    {exact : Except IntegerFault Int} {world : World σ}
    {next : Value → Attempt σ Value} {further : Int → Except IntegerFault Int}
    (head : Answers (attempt.run world).1 exact)
    (tail :
      ∀ value,
        exact = .ok value →
        Answers ((next (.int value)).run (attempt.run world).2).1
          (further value)) :
    Answers ((attempt >>= next).run world).1 (exact >>= further) := by
  rw [Attempt.bind_run]
  rcases run : attempt.run world with ⟨outcome, after⟩
  rw [run] at head tail
  cases exact with
  | ok value =>
    change outcome = .ok (.int value) at head
    rw [head]
    exact tail value rfl
  | error fault =>
    cases fault with
    | zeroDivisor =>
      change outcome = .error .divisionByZero at head
      rw [head]
      rfl
    | outOfRange =>
      obtain ⟨problem, same⟩ := head
      change outcome = _ at same
      rw [same]
      exact ⟨problem, rfl⟩

section Evaluation

variable {context : EvaluationContext} {world : World σ} {reads : Reference → Int}

/-- An evaluation is a step from one world to the next, in which references give
what they gave. -/
theorem eval_watches (ready : context.Ready world) (expr : Expr) :
    World.Watches context.binding world ((context.eval expr).run world).2 :=
  have follows : Follows context 0 0 expr.aliases (Value.renumber (Value.shift 0 0))
      (fun after value => value.Known after after.loaded) world (context.eval expr)
      (context.silent.eval expr) := follows_eval expr world ready
  follows.watches

/-- An operator that is applied in the world in which it is met. -/
theorem apply_run (apply : World σ → Except UiError Value) (world : World σ) :
    (do apply (← getThe (World σ)) : Attempt σ Value).run world =
    (apply world, world) := by
  rw [Attempt.bind_run, Attempt.getThe_run]
  exact Attempt.except_run _ _

/-- A reference gives its integer also after other parts of the expression have
been evaluated. -/
theorem GivesInteger.later (ready : context.Ready world) {target : Reference}
    (given : GivesInteger context world reads target) {after : World σ}
    (watches : World.Watches context.binding world after) :
    ((context.resolve target).run after).1 = .ok (.int (reads target)) := by
  obtain ⟨other, success, alike⟩ :=
    resolve_repeats ready target watches _ given.gives
  cases alike
  exact success

/-- An expression is evaluated as it is calculated, in whatever world the parts
to its left have led to. -/
theorem IntegerTree.answers (ready : context.Ready world) (tree : IntegerTree)
    (given : ∀ target ∈ tree.targets, GivesInteger context world reads target)
    {after : World σ} (watches : World.Watches context.binding world after) :
    Answers ((context.eval tree.expr).run after).1
      (tree.exactly guardedRemainder reads) := by
  induction tree generalizing after with
  | literal value fits span =>
    rw [expr, EvaluationContext.eval]
    rfl
  | read target =>
    rw [expr, EvaluationContext.eval]
    exact (given target (List.mem_singleton_self target)).later ready watches
  | signed sign right grouped span hypothesis =>
    rw [expr, EvaluationContext.eval, exactly]
    refine (hypothesis given watches).bind fun value _ => ?_
    rw [apply_run fun world => world.applyPrefix sign.op (.int value)]
    exact answers_applyPrefix _ sign value
  | combined op left right grouped span leftHypothesis rightHypothesis =>
    rw [expr, EvaluationContext.eval, exactly]
    have leftGiven :=
      fun target member => given target
        (List.mem_append_left right.targets member)
    have rightGiven :=
      fun target member => given target
        (List.mem_append_right left.targets member)
    have leftFits :=
      left.exactly_fitting fun target member => (leftGiven target member).fits
    refine (leftHypothesis leftGiven watches).bind fun first found => ?_
    have rightFits :=
      right.exactly_fitting fun target member => (rightGiven target member).fits
    have later := watches.trans (eval_watches (ready.watches watches) left.expr)
    refine (rightHypothesis rightGiven later).bind fun second other => ?_
    rw [apply_run fun world => world.applyInfix op.op (.int first) (.int second)]
    exact answers_applyInfix _ op (leftFits first found) (rightFits second other)

/-- Integer expressions are exact or refused, never wrapped.  The value is the
one over all integers if all results on the way fit into 64 bits, and else the
error is that of what goes wrong first. -/
theorem integers_exact (ready : context.Ready world) (tree : IntegerTree)
    (given : ∀ target ∈ tree.targets, GivesInteger context world reads target) :
    Answers ((context.eval tree.expr).run world).1
      (tree.exactly guardedRemainder reads) :=
  tree.answers ready given (.refl _ world)

end Evaluation

/-! A world of one global, the number seven. -/

def sevenWorld : World Unit :=
  { globals := [("$seven", .int 7)]
    host := () }

/-- Expressions can be evaluated in that world. -/
theorem sevenWorld_ready :
    (⟨none, [], none⟩ : EvaluationContext).Ready sevenWorld where
  sound := {
    globals := ⟨trivial, trivial⟩
    values := fun _ => trivial
    items := fun id value member => by cases member
    fields := fun id entry member => by cases member
    rows := fun id entry member => by cases member
    states := fun id inside => by cases inside
    nodes := fun id entry member => by cases member
    imports := fun id entry member => by cases member
    controllers := fun entry member => by cases member
    bindings := fun id binding found => by cases found
    blocks := fun id block found => by cases found }
  wired := {
    ordered := fun post => by rcases post with id | id <;> exact ⟨nofun, .nil⟩
    heard := fun post number id generation property member => by
      rcases post with bag | widget <;> cases member
    records := fun id binding found => by cases found
    watched := fun id binding found => by cases found
    keepers :=
      fun keeper record member => by
        rcases keeper with handle | item <;> cases member
    single := fun id keeper other member => by
      rcases keeper with handle | item <;> cases member }
  handle id named := by cases named
  scope locals member := by cases member

/-- `10 - $seven % 4` -/
def sevenTree : IntegerTree :=
  .combined .sub (.literal 10 rfl .nowhere)
    (.combined .rem (.read (.global "$seven" .nowhere))
      (.literal 4 rfl .nowhere) false .nowhere) false .nowhere

/-- Ten less the remainder of seven by four is seven. -/
theorem integers_exact_seven :
    (((⟨none, [], none⟩ : EvaluationContext).eval sevenTree.expr).run
      sevenWorld).1 = .ok (.int 7) := by
  have given : ∀ target ∈ sevenTree.targets,
      GivesInteger ⟨none, [], none⟩ sevenWorld (fun _ => 7) target := by
    intro target member
    cases List.mem_singleton.mp member
    exact ⟨rfl, rfl⟩
  exact integers_exact sevenWorld_ready sevenTree given

/-- `(-9223372036854775807 - 1) % -1` -/
def leastTree : IntegerTree :=
  .combined .rem (.combined .sub
    (.signed .minus (.literal 9223372036854775807 rfl .nowhere) false .nowhere)
    (.literal 1 rfl .nowhere) true .nowhere)
    (.signed .minus (.literal 1 rfl .nowhere) false .nowhere) false .nowhere

/-- With the plain remainder, expressions are not evaluated as they are
calculated: that of the least integer and minus one is zero, and is refused. -/
theorem plain_remainder_refused :
    ¬ ∀ (context : EvaluationContext) (world : World Unit)
      (reads : Reference → Int) (tree : IntegerTree), context.Ready world →
      (∀ target ∈ tree.targets, GivesInteger context world reads target) →
      Answers ((context.eval tree.expr).run world).1
      (tree.exactly plainRemainder reads) := by
  intro every
  have zero :
      Answers (((⟨none, [], none⟩ : EvaluationContext).eval leastTree.expr).run
        sevenWorld).1 (.ok 0) :=
    every ⟨none, [], none⟩ sevenWorld (fun _ => 7) leastTree sevenWorld_ready
      (fun _ member => by cases member)
  have refused :
      (((⟨none, [], none⟩ : EvaluationContext).eval leastTree.expr).run
        sevenWorld).1 =
        .error (.type (.overflow .rem (-9223372036854775808) (-1))) :=
    rfl
  rw [refused] at zero
  cases zero

end LiveMarkup
