import LiveMarkup.Expr.Operators

/-!
# The relational operators agree with equality

Comparing and testing for equality each take integers exactly and other numbers
with a tolerance, by code of their own.  On every mix of integers and
floating-point numbers they tell the same story: the tolerance is left out of
the strict operators exactly where equality takes it in.

Nothing is used of floating-point numbers but that comparing two of them gives
an answer, so that this holds also where one of them is not a number.
-/

namespace LiveMarkup

variable {σ : Type} {left right : Value}

/-- A value that is a number, an integer or a floating-point one. -/
inductive Value.Numeric : Value → Prop where
  | int (value : Int) : Numeric (.int value)
  | float (value : Float) : Numeric (.float value)

/-- A number is what has a value of double width. -/
theorem Value.numeric_iff {value : Value} :
    value.Numeric ↔ ∃ number, value.number? = some number := by
  constructor
  · rintro (_ | _)
    · exact ⟨_, rfl⟩
    · exact ⟨_, rfl⟩
  · rintro ⟨number, known⟩
    cases value with
    | int value => exact .int value
    | float value => exact .float value
    | _ => cases known

/-- An operator that compares numbers. -/
inductive InfixOp.Relational : InfixOp → Prop where
  | greater : Relational .greater
  | less : Relational .less
  | greaterEq : Relational .greaterEq
  | lessEq : Relational .lessEq

/-- What the strict operators and equality answer on two numbers. -/
structure Value.Verdict where
  greater : Bool
  less : Bool
  equal : Bool

namespace World

variable {world : World σ}

/-- What all six operators that compare answer on two numbers, told by three of
the answers. -/
structure Compares (world : World σ) (left right : Value)
    (verdict : Value.Verdict) : Prop where
  greater : world.applyInfix .greater left right = .ok (.bool verdict.greater)
  less : world.applyInfix .less left right = .ok (.bool verdict.less)
  eq : world.applyInfix .eq left right = .ok (.bool verdict.equal)
  notEq : world.applyInfix .notEq left right = .ok (.bool !verdict.equal)
  greaterEq : world.applyInfix .greaterEq left right =
        .ok (.bool (verdict.greater || verdict.equal))
  lessEq : world.applyInfix .lessEq left right =
        .ok (.bool (verdict.less || verdict.equal))
  /-- What is greater is not equal. -/
  greater_apart : ¬ (verdict.greater = true ∧ verdict.equal = true)
  /-- What is less is not equal. -/
  less_apart : ¬ (verdict.less = true ∧ verdict.equal = true)

/-- Two values that can be tested for equality only.  What is told of a
comparison is the operator and the types of its operands. -/
structure Refuses (world : World σ) (left right : Value) : Prop where
  relational : ∀ op : InfixOp, op.Relational → world.applyInfix op left right =
    .error (.type (.infixOperands op (world.typeName left) (world.typeName right)))
  equality : ∃ equal, world.applyInfix .eq left right = .ok (.bool equal) ∧
    world.applyInfix .notEq left right = .ok (.bool !equal)

/-! ## Integers -/

theorem compareInts_greaterEq (left right : Int) :
    compareInts .greaterEq left right =
      (compareInts .greater left right || left == right) := by
  rw [compareInts, compareInts, Bool.eq_iff_iff]
  simp only [decide_eq_true_eq, Bool.or_eq_true, beq_iff_eq]
  omega

theorem compareInts_lessEq (left right : Int) :
    compareInts .lessEq left right =
      (compareInts .less left right || left == right) := by
  change decide (left ≤ right) = (decide (left < right) || left == right)
  rw [Bool.eq_iff_iff]
  simp only [decide_eq_true_eq, Bool.or_eq_true, beq_iff_eq]
  omega

/-- Integers are compared exactly. -/
theorem compares_ints (world : World σ) (left right : Int) :
    world.Compares (.int left) (.int right)
      ⟨compareInts .greater left right, compareInts .less left right,
        left == right⟩ where
  greater := rfl
  less := rfl
  eq := rfl
  notEq := rfl
  greaterEq :=
    congrArg (fun answer => Except.ok (Value.bool answer))
      (compareInts_greaterEq left right)
  lessEq :=
    congrArg (fun answer => Except.ok (Value.bool answer))
      (compareInts_lessEq left right)
  greater_apart := by
    simp only [compareInts, decide_eq_true_eq, beq_iff_eq]
    omega
  less_apart := by
    simp only [compareInts, decide_eq_true_eq, beq_iff_eq]
    omega

/-! ## Numbers of double width -/

theorem compareFloats_greaterEq (left right : Float) :
    compareFloats .greaterEq left right =
      (compareFloats .greater left right || Value.close left right) := by
  rw [compareFloats, compareFloats]
  cases Value.close left right <;> simp

theorem compareFloats_lessEq (left right : Float) :
    compareFloats .lessEq left right =
      (compareFloats .less left right || Value.close left right) := by
  change (decide (left < right) || Value.close left right) =
    (decide (left < right) && !Value.close left right || Value.close left right)
  cases Value.close left right <;> simp

/-- A strict operator leaves out what equality takes in. -/
theorem compareFloats_apart {left right : Float}
    (close : Value.close left right = true) :
    compareFloats .greater left right = false ∧
    compareFloats .less left right = false := by
  rw [compareFloats, compareFloats, close]
  simp

/-- Two numbers that are not both integers are compared with the tolerance that
equality has. -/
theorem compares_floats {leftNumber rightNumber : Float}
    (compares :
      ∀ op : InfixOp,
        world.compare op left right =
          .ok (compareFloats op leftNumber rightNumber))
    (loose : left.loose right = Value.close leftNumber rightNumber) :
    world.Compares left right ⟨compareFloats .greater leftNumber rightNumber,
      compareFloats .less leftNumber rightNumber,
      Value.close leftNumber rightNumber⟩ where
  greater := by
    rw [applyInfix, compares]
    rfl
  less := by
    rw [applyInfix, compares]
    rfl
  eq := by
    rw [applyInfix, loose]
  notEq := by
    rw [applyInfix, loose]
  greaterEq := by
    rw [applyInfix, compares, compareFloats_greaterEq]
    rfl
  lessEq := by
    rw [applyInfix, compares, compareFloats_lessEq]
    rfl
  greater_apart both := by
    rw [(compareFloats_apart both.2).1] at both
    cases both.1
  less_apart both := by
    rw [(compareFloats_apart both.2).2] at both
    cases both.1

/-! ## All values -/

/-- Numbers of all kinds can be compared. -/
theorem exists_compares (world : World σ) (numericLeft : left.Numeric)
    (numericRight : right.Numeric) :
    ∃ verdict, world.Compares left right verdict := by
  cases numericLeft with
  | int left =>
      cases numericRight with
      | int right => exact ⟨_, compares_ints world left right⟩
      | float right =>
        exact ⟨_, compares_floats (fun _ => rfl) (by rw [Value.loose])⟩
  | float left =>
      cases numericRight with
      | int right => exact ⟨_, compares_floats (fun _ => rfl) (by rw [Value.loose])⟩
      | float right =>
        exact ⟨_, compares_floats (fun _ => rfl) (by rw [Value.loose])⟩

/-- Comparing fails if one of the values is no number. -/
theorem compare_of_not_numeric (op : InfixOp)
    (other : ¬ (left.Numeric ∧ right.Numeric)) :
    world.compare op left right =
      .error (world.operandError op left right) := by
  unfold compare
  split
  · exact absurd ⟨.int _, .int _⟩ other
  · split
    case h_1 leftNumber rightNumber leftKnown rightKnown =>
      exact absurd ⟨Value.numeric_iff.mpr ⟨_, leftKnown⟩,
        Value.numeric_iff.mpr ⟨_, rightKnown⟩⟩ other
    case h_2 => rfl

/-- Values of which one is no number are refused by the relational operators
alone. -/
theorem refuses_of_not_numeric (world : World σ)
    (other : ¬ (left.Numeric ∧ right.Numeric)) : world.Refuses left right where
  relational op relational := by
    cases relational <;>
      · rw [applyInfix, compare_of_not_numeric _ other]
        rfl
  equality := ⟨left.loose right, rfl, rfl⟩

/-- The relational operators and equality tell one story, on all values.  Of two
numbers, one is greater or equal where it is greater or where they are equal, it
is less or equal where it is less or where they are equal, it is neither greater
nor less where they are equal, and they are unequal where they are not equal. If
one of the values is no number, the four relational operators refuse them for
their types, and equality still answers. -/
theorem comparisons_agree (world : World σ) (left right : Value) :
    ((left.Numeric ∧ right.Numeric) ∧
     ∃ verdict, world.Compares left right verdict) ∨
    (¬ (left.Numeric ∧ right.Numeric) ∧ world.Refuses left right) := by
  by_cases numeric : left.Numeric ∧ right.Numeric
  · exact .inl ⟨numeric, exists_compares world numeric.1 numeric.2⟩
  · exact .inr ⟨numeric, refuses_of_not_numeric world numeric⟩

end World

end LiveMarkup
