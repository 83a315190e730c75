import Mathlib.Tactic.Linarith
import Mathlib.Tactic.Positivity
import Mathlib.Tactic.Ring
import LiveMarkup.Decimal.Notation
import LiveMarkup.Proofs.Printing.Lexemes

/-!
# Printed numbers

An integer is printed in digits that read back as the integer.  A floating-point
number without a sign is printed in digits on both sides of a point: one that
is not whole needs places behind the point, because no whole number lies as near
to it as the shortest decimal does.
-/

namespace LiveMarkup.Decimal

/-! ## Digits -/

theorem isDigits_natDigits (value : Nat) : IsDigits (natDigits value) where
  some := List.length_pos_iff.mp Nat.length_toDigits_pos
  all := by
    rw [List.all_eq_true]
    intro digit member
    have isDigit := Nat.isDigit_of_mem_toDigits (by decide) (by decide) member
    simp only [Char.isDigit, Bool.and_eq_true, decide_eq_true_eq] at isDigit
    simp only [Text.isDigit, Bool.and_eq_true, decide_eq_true_eq]
    exact isDigit

/-- The digits of a number read back as that number. -/
theorem digitsValue_natDigits (value : Nat) :
    digitsValue (natDigits value) = value := by
  have reads :=
    Nat.ofDigitChars_toDigits (n := value) (b := 10) (by decide) (by decide)
  simp only [Nat.ofDigitChars, Nat.mul_comm 10] at reads
  exact reads

theorem splitSign_digits {digits : List Char} (isDigits : IsDigits digits) :
    splitSign digits = (false, digits) := by
  obtain ⟨first, others, rfl, digit⟩ := isDigits.parts
  unfold splitSign
  split
  · next same => cases same; cases digit
  · next same => cases same; cases digit
  · rfl

/-- Digits are read as the natural number they stand for, if it fits into a word. -/
theorem readInt?_digits {digits : List Char} (isDigits : IsDigits digits) :
    readInt? digits =
      if fitsWord (digitsValue digits) then
        some (Int.ofNat (digitsValue digits))
      else none := by
  have some : digits.isEmpty = false := by simpa using isDigits.some
  simp [readInt?, splitSign_digits isDigits, some, isDigits.all]

/-- What digits are read as is printed in digits that read back. -/
theorem intChars_readInt? {digits : List Char} (isDigits : IsDigits digits)
    {value : Int} (reads : readInt? digits = some value) :
    IsDigits (intChars value) ∧ readInt? (intChars value) = some value := by
  rw [readInt?_digits isDigits] at reads
  split at reads
  · next fits =>
    cases reads
    refine ⟨isDigits_natDigits _, ?_⟩
    rw [intChars, readInt?_digits (isDigits_natDigits _), digitsValue_natDigits,
      if_pos fits]
  · cases reads

/-! ## The shortest decimal of a number that is not whole -/

/-- The decimal is a whole number. -/
def Scaled.Equals (number : Scaled) (whole : Nat) : Prop :=
  number.digits * 10 ^ number.exponent.toNat = whole * 10 ^ (-number.exponent).toNat

/-- A number that the interval contains lies between its bounds. -/
theorem Interval.bounds_of_contains {interval : Interval} {units : Nat}
    (contains : interval.contains units = true) :
    interval.lower ≤ units * interval.denominator ∧
    units * interval.denominator ≤ interval.upper := by
  unfold Interval.contains at contains
  split at contains
  all_goals
    simp only [Bool.and_eq_true, decide_eq_true_eq] at contains
    omega

/-- The only whole number in the interval around a number is the number itself,
if it is whole. -/
theorem eq_of_contains {mantissa places units whole : Nat} {halved : Bool}
    {exponent : Int} (positive : 0 < places)
    (contains :
      ((Interval.around mantissa (-places) halved).inUnits exponent).contains
        units = true) (equals : Scaled.Equals ⟨units, exponent⟩ whole) :
    mantissa = whole * 2 ^ places := by
  obtain ⟨lower, upper⟩ := Interval.bounds_of_contains contains
  have negative : -(places : Int) < 0 := by omega
  have scale : 0 < 10 ^ exponent.natAbs := Nat.pow_pos (by decide)
  simp only [Interval.around, if_pos negative, Int.natAbs_neg,
    Int.natAbs_natCast, Nat.mul_one, Nat.pow_eq] at lower upper
  simp only [Scaled.Equals] at equals
  have near : ∀ {size : Nat},
      (4 * mantissa - if halved = true then 1 else 2) ≤ size →
      size ≤ 4 * mantissa + 2 → size = whole * (4 * 2 ^ places) →
      mantissa = whole * 2 ^ places := by
    intro size lower upper same
    have parts : size = 4 * (whole * 2 ^ places) := by rw [same]; ring
    split at lower <;> omega
  by_cases below : exponent < 0
  · have whole_eq : units = whole * 10 ^ exponent.natAbs := by
      have up : exponent.toNat = 0 := by omega
      have down : (-exponent).toNat = exponent.natAbs := by omega
      rw [up, down] at equals
      simpa using equals
    simp only [Interval.inUnits, if_pos below, Nat.pow_eq, whole_eq] at lower upper
    rw [Nat.mul_right_comm] at lower upper
    exact near (Nat.le_of_mul_le_mul_right lower scale)
      (Nat.le_of_mul_le_mul_right upper scale) rfl
  · have whole_eq : units * 10 ^ exponent.natAbs = whole := by
      have up : exponent.toNat = exponent.natAbs := by omega
      have down : (-exponent).toNat = 0 := by omega
      rw [up, down] at equals
      simpa using equals
    simp only [Interval.inUnits, if_neg below, Nat.pow_eq] at lower upper
    refine near lower upper ?_
    rw [← whole_eq]
    ring

/-- The nearest whole number of units is at most half a unit away. -/
theorem Interval.nearest_spec (interval : Interval)
    (positive : 0 < interval.denominator) :
    2 * (interval.nearest * interval.denominator) ≤
      2 * interval.value + interval.denominator ∧
    2 * interval.value ≤
      2 * (interval.nearest * interval.denominator) + interval.denominator := by
  have split := Nat.div_add_mod interval.value interval.denominator
  have below := Nat.mod_lt interval.value positive
  unfold Interval.nearest
  simp only
  split
  · rw [Nat.mul_comm (interval.value / interval.denominator)]
    omega
  · rw [Nat.add_mul, Nat.mul_comm (interval.value / interval.denominator),
      Nat.one_mul]
    omega

/-- The number chosen from an interval lies in it. -/
theorem Interval.contains_of_choose? {interval : Interval} {units : Nat}
    (chosen : interval.choose? = some units) : interval.contains units = true := by
  unfold Interval.choose? at chosen
  simp only at chosen
  split at chosen
  · next below above =>
    cases chosen
    unfold Interval.nearest
    simp only
    split <;> assumption
  · next below _ => cases chosen; exact below
  · next _ above => cases chosen; exact above
  · cases chosen

/-- The shortest decimal lies in the interval, or is the nearest one of the
maximal length. -/
theorem Interval.shortestFrom_spec (interval : Interval) (leading : Int)
    (bound count : Nat) :
    (∃ length : Nat,
      (interval.inUnits (leading - length)).contains
        (interval.shortestFrom leading bound count).digits = true ∧
      (interval.shortestFrom leading bound count).exponent = leading - length) ∨
    interval.shortestFrom leading bound count =
      ⟨(interval.inUnits (leading - ↑(count + bound))).nearest,
        leading - ↑(count + bound)⟩ := by
  induction bound generalizing count with
  | zero => exact .inr rfl
  | succ bound hypothesis =>
    unfold Interval.shortestFrom
    split
    · next units chosen =>
        exact .inl ⟨count, Interval.contains_of_choose? chosen, rfl⟩
    · have rest := hypothesis (count + 1)
      rw [Nat.add_right_comm] at rest
      exact rest

/-! ## Trimming -/

/-- Zeros at the end of the digits do not matter. -/
theorem Scaled.equals_ten {digits whole : Nat} {exponent : Int}
    (equals : Scaled.Equals ⟨digits, exponent + 1⟩ whole) :
    Scaled.Equals ⟨10 * digits, exponent⟩ whole := by
  simp only [Scaled.Equals] at equals ⊢
  by_cases below : exponent < 0
  · have up : (exponent + 1).toNat = exponent.toNat := by omega
    have down : (-exponent).toNat = (-(exponent + 1)).toNat + 1 := by omega
    rw [down, Nat.pow_succ, Nat.mul_assoc, ← up, equals]
    ring
  · have up : (exponent + 1).toNat = exponent.toNat + 1 := by omega
    have down : (-exponent).toNat = (-(exponent + 1)).toNat := by omega
    rw [down, ← equals, up, Nat.pow_succ]
    ring

/-- Taking trailing zeros away keeps the value. -/
theorem Scaled.equals_trim {number : Scaled} {whole bound : Nat}
    (equals : (number.trim bound).Equals whole) : number.Equals whole := by
  induction bound generalizing number with
  | zero => exact equals
  | succ bound hypothesis =>
    unfold Scaled.trim at equals
    split at equals
    · next ends =>
      have divides : 10 * (number.digits / 10) = number.digits := by
        simp only [Bool.and_eq_true, beq_iff_eq] at ends
        omega
      have once := Scaled.equals_ten (hypothesis equals)
      rwa [divides] at once
    · exact equals

/-! ## The leading place -/

/-- Enough places are counted for a value below one, unless the bound is
reached. -/
theorem placesBelowOne_spec (denominator bound value : Nat) :
    placesBelowOne denominator bound value = bound ∨
      denominator ≤ value * 10 ^ placesBelowOne denominator bound value := by
  induction bound generalizing value with
  | zero => exact .inl rfl
  | succ bound hypothesis =>
    unfold placesBelowOne
    split
    · next le => exact .inr (by simpa using le)
    · rcases hypothesis (value * 10) with all | le
      · exact .inl (by rw [all])
      · right
        rw [Nat.pow_succ, Nat.mul_comm (10 ^ _), ← Nat.mul_assoc]
        exact le

/-- The places counted for a value of at least one are the smallest that hold
it. -/
theorem placesOfWhole_spec {value denominator : Nat} (positive : 0 < denominator)
    (atLeastOne : denominator ≤ value) :
    0 < placesOfWhole value denominator ∧
      10 ^ (placesOfWhole value denominator - 1) * denominator ≤ value ∧
        ∀ bound, 0 < bound → value < 10 ^ bound * denominator →
          placesOfWhole value denominator ≤ bound := by
  have some : 0 < placesOfWhole value denominator := Nat.length_toDigits_pos
  refine ⟨some, ?_, ?_⟩
  · apply (Nat.le_div_iff_mul_le positive).mp
    by_cases one : placesOfWhole value denominator = 1
    · rw [one]
      exact (Nat.one_le_div_iff positive).mpr atLeastOne
    · apply Nat.le_of_not_lt
      intro less
      have shorter := (Nat.length_toDigits_le_iff (by decide) (by omega)).mpr less
      exact absurd shorter (by unfold placesOfWhole at some ⊢; omega)
  · intro bound more less
    apply (Nat.length_toDigits_le_iff (by decide) more).mpr
    exact (Nat.div_lt_iff_lt_mul positive).mpr less

/-- Seventeen digits are finer than the places of a number of double width. -/
theorem leadingPlace_spec {mantissa places : Nat} (halved : Bool)
    (positive : 0 < mantissa) (fits : mantissa < 2 ^ 53)
    (fractional : 0 < places) (bounded : places ≤ 1074) :
    (Interval.around mantissa (-places) halved).leadingPlace ≤ 16 ∧
    2 ^ places <
      2 * 10 ^
        (17 - (Interval.around mantissa (-places)
          halved).leadingPlace).toNat := by
  have negative : -(places : Int) < 0 := by omega
  have small : (2 : Nat) ^ 53 < 10 ^ 16 := by decide
  simp only [Interval.leadingPlace, Interval.around, if_pos negative,
    Int.natAbs_neg, Int.natAbs_natCast, Nat.mul_one, Nat.pow_eq]
  split
  · next atLeastOne =>
    obtain ⟨some, lower, upper⟩ := placesOfWhole_spec (by positivity) atLeastOne
    generalize placesOfWhole (4 * mantissa) (4 * 2 ^ places) = digits
      at some lower upper
    have atMost : digits ≤ 16 := by
      apply upper 16 (by decide)
      have least : 1 ≤ 2 ^ places := Nat.one_le_two_pow
      omega
    have left : ((17 : Int) - digits).toNat = 17 - digits := by omega
    rw [left]
    refine ⟨by omega, ?_⟩
    have le : 10 ^ (digits - 1) * 2 ^ places ≤ mantissa := by
      rw [Nat.mul_left_comm] at lower
      exact Nat.le_of_mul_le_mul_left lower (by decide)
    have parts : (10 : Nat) ^ 16 = 10 ^ (digits - 1) * 10 ^ (17 - digits) := by
      rw [← Nat.pow_add]
      congr 1
      omega
    have lt :
        10 ^ (digits - 1) * 2 ^ places <
          10 ^ (digits - 1) * 10 ^ (17 - digits) := by
      rw [← parts]
      omega
    have := Nat.lt_of_mul_lt_mul_left lt
    omega
  · next below =>
    have above : ∀ tens : Nat, (17 - (1 - (tens : Int))).toNat = 16 + tens := by
      omega
    rw [above]
    refine ⟨by omega, ?_⟩
    rcases placesBelowOne_spec (4 * 2 ^ places) 400 (4 * mantissa)
      with all | reached
    · rw [all]
      obtain ⟨tens, same, enough⟩ : ∃ tens, 16 + 400 = tens ∧ places ≤ 3 * tens :=
        ⟨_, rfl, by omega⟩
      rw [same]
      calc 2 ^ places
          ≤ 2 ^ (3 * tens) := Nat.pow_le_pow_right (by decide) enough
        _ = 8 ^ tens := Nat.pow_mul 2 3 tens
        _ ≤ 10 ^ tens := Nat.pow_le_pow_left (by decide) tens
        _ < 2 * 10 ^ tens :=
          lt_mul_of_one_lt_left (Nat.pow_pos (by decide)) (by decide)
    · generalize placesBelowOne (4 * 2 ^ places) 400 (4 * mantissa) =
        tens at reached
      have le : 2 ^ places ≤ mantissa * 10 ^ tens := by
        rw [Nat.mul_assoc] at reached
        exact Nat.le_of_mul_le_mul_left reached (by decide)
      have lt : mantissa * 10 ^ tens < 10 ^ 16 * 10 ^ tens :=
        Nat.mul_lt_mul_of_pos_right (Nat.lt_trans fits small)
          (Nat.pow_pos (by decide))
      rw [Nat.pow_add]
      omega

/-- Two natural numbers whose difference counts for less than one are equal. -/
theorem eq_of_near {number whole scale size : Nat}
    (lower : 2 * whole * scale ≤ 2 * number * scale + size)
    (upper : 2 * number * scale ≤ 2 * whole * scale + size)
    (finer : size < 2 * scale) : number = whole := by
  rcases Nat.lt_trichotomy number whole with less | same | greater
  · have more :=
      Nat.mul_le_mul_right scale (show 2 * number + 2 ≤ 2 * whole by omega)
    rw [Nat.add_mul] at more
    omega
  · exact same
  · have more :=
      Nat.mul_le_mul_right scale (show 2 * whole + 2 ≤ 2 * number by omega)
    rw [Nat.add_mul] at more
    omega

/-- The shortest decimal of a number that is not whole is not whole. -/
theorem not_equals_shortest {mantissa places whole : Nat} {halved : Bool}
    (positive : 0 < mantissa) (fits : mantissa < 2 ^ 53)
    (fractional : 0 < places) (bounded : places ≤ 1074)
    (equals : (shortest mantissa (-places) halved).Equals whole) :
    mantissa = whole * 2 ^ places := by
  rcases Interval.shortestFrom_spec (Interval.around mantissa (-places) halved)
    (Interval.around mantissa (-places) halved).leadingPlace (maximalDigits - 1) 1
    with ⟨length, contains, exponent⟩ | nearest
  · refine eq_of_contains fractional contains ?_
    rw [← exponent]
    exact equals
  · -- The nearest decimal of maximal length is too near for a whole number to
    -- be in its place.
    obtain ⟨atMost, finer⟩ :=
      leadingPlace_spec halved positive fits fractional bounded
    rw [shortest, nearest] at equals
    generalize (Interval.around mantissa (-places) halved).leadingPlace =
      leading at *
    have length : (1 + (maximalDigits - 1) : Nat) = 17 := rfl
    rw [length] at equals
    have below : leading - ((17 : Nat) : Int) < 0 := by omega
    have up : (leading - ((17 : Nat) : Int)).toNat = 0 := by omega
    have down :
        (-(leading - ((17 : Nat) : Int))).toNat = (17 - leading).toNat := by
      omega
    have scale :
        (leading - ((17 : Nat) : Int)).natAbs = (17 - leading).toNat := by
      omega
    have units := equals
    simp only [Scaled.Equals, up, down, Nat.pow_zero, Nat.mul_one] at units
    have negative : -(places : Int) < 0 := by omega
    have proper :
        0 <
          ((Interval.around mantissa (-places) halved).inUnits
            (leading - (17 : Nat))).denominator := by
      simp only [Interval.inUnits, Interval.around, if_pos below,
        if_pos negative, Nat.pow_eq]
      positivity
    obtain ⟨lower, upper⟩ := Interval.nearest_spec _ proper
    rw [units] at lower upper
    simp only [Interval.inUnits, Interval.around, if_pos below, if_pos negative,
      scale, Int.natAbs_neg, Int.natAbs_natCast, Nat.mul_one, Nat.pow_eq]
      at lower upper
    generalize (17 - leading).toNat = tens at *
    have least :
        2 * (whole * 2 ^ places) * 10 ^ tens ≤
          2 * mantissa * 10 ^ tens + 2 ^ places := by
      linarith
    have most :
        2 * mantissa * 10 ^ tens ≤
          2 * (whole * 2 ^ places) * 10 ^ tens + 2 ^ places := by
      linarith
    exact eq_of_near least most finer

/-! ## The printed form -/

/-- The number read off the bits of a floating-point number is of double width. -/
theorem ofBits_bounds {bits mantissa : Nat} {negative halved : Bool}
    {exponent : Int}
    (finite :
      Binary.ofBits 52 11 bits = .finite negative mantissa exponent halved) :
    mantissa < 2 ^ 53 ∧ -1074 ≤ exponent := by
  have fraction : bits % 2 ^ 52 < 2 ^ 52 := Nat.mod_lt _ (by decide)
  simp only [Binary.ofBits, Nat.pow_eq] at finite
  split at finite
  · split at finite <;> cases finite
  · split at finite
    · cases finite
      exact ⟨by omega, by norm_num⟩
    · next some =>
      simp only [beq_iff_eq] at some
      generalize bits / 2 ^ 52 % 2 ^ 11 = field at finite some
      cases finite
      exact ⟨by omega, by norm_num; omega⟩

theorem isDigits_take {digits : List Char} (isDigits : IsDigits digits)
    {count : Nat} (positive : 0 < count) : IsDigits (digits.take count) := by
  refine ⟨?_, ?_⟩
  · obtain ⟨first, others, rfl, -⟩ := isDigits.parts
    obtain ⟨less, rfl⟩ := Nat.exists_eq_succ_of_ne_zero (Nat.ne_of_gt positive)
    exact List.cons_ne_nil _ _
  · have all := isDigits.all
    rw [List.all_eq_true] at all ⊢
    exact fun digit member => all digit (List.mem_of_mem_take member)

theorem isDigits_drop {digits : List Char} (isDigits : IsDigits digits)
    {count : Nat} (less : count < digits.length) :
    IsDigits (digits.drop count) := by
  refine ⟨?_, ?_⟩
  · rw [Ne, List.drop_eq_nil_iff]
    omega
  · have all := isDigits.all
    rw [List.all_eq_true] at all ⊢
    exact fun digit member => all digit (List.mem_of_mem_drop member)

/-- A number with places behind the point is written with digits on both sides
of it. -/
theorem positional_parts {number : Scaled} (below : number.exponent < 0) :
    ∃ whole fraction, IsDigits whole ∧ IsDigits fraction ∧
      number.positional = whole ++ '.' :: fraction := by
  have digits := isDigits_natDigits number.digits
  have negative : ¬ 0 ≤ number.exponent := by omega
  unfold Scaled.positional
  simp only [if_neg negative]
  split
  · next inside =>
    refine ⟨_, _, isDigits_take digits ?_, isDigits_drop digits ?_, rfl⟩ <;> omega
  · refine ⟨['0'], List.replicate _ '0' ++ natDigits number.digits, ?_, ?_, rfl⟩
    · exact ⟨List.cons_ne_nil _ _, rfl⟩
    · refine ⟨by simp [digits.some], ?_⟩
      rw [List.all_append, digits.all, Bool.and_true, List.all_eq_true]
      intro digit member
      rw [List.eq_of_mem_replicate member]
      rfl

/-- The digits of a number that is not whole go on behind the point. -/
theorem exponent_trim_shortest {mantissa places : Nat} (halved : Bool)
    (fits : mantissa < 2 ^ 53) (bounded : places ≤ 1074)
    (fractional : mantissa % 2 ^ places ≠ 0) :
    ((shortest mantissa (-places) halved).trim maximalDigits).exponent < 0 := by
  have some : 0 < mantissa := by
    rcases Nat.eq_zero_or_pos mantissa with rfl | some
    · exact absurd (Nat.zero_mod _) fractional
    · exact some
  have behind : 0 < places := by
    rcases Nat.eq_zero_or_pos places with rfl | behind
    · exact absurd (Nat.mod_one _) fractional
    · exact behind
  by_contra whole
  have equals :
      ((shortest mantissa (-places) halved).trim maximalDigits).Equals
        (((shortest mantissa (-places) halved).trim maximalDigits).digits * 10 ^
          ((shortest mantissa (-places) halved).trim
            maximalDigits).exponent.toNat) := by
    have down :
        (-((shortest mantissa (-places) halved).trim
          maximalDigits).exponent).toNat = 0 := by
      omega
    rw [Scaled.Equals, down, Nat.pow_zero, Nat.mul_one]
  have divides :=
    not_equals_shortest some fits behind bounded (Scaled.equals_trim equals)
  rw [divides, Nat.mul_mod_left] at fractional
  exact fractional rfl

/-- A finite number without a sign is printed in digits on both sides of a point. -/
theorem literalChars_parts {value : Float} {mantissa : Nat} {exponent : Int}
    {halved : Bool}
    (finite : Binary.ofFloat value = .finite false mantissa exponent halved) :
    ∃ whole fraction,
      IsDigits whole ∧ IsDigits fraction ∧
      (Binary.ofFloat value).literalChars = whole ++ '.' :: fraction := by
  obtain ⟨fits, bounded⟩ := ofBits_bounds finite
  rw [finite]
  unfold Binary.literalChars
  by_cases isWhole : Decimal.isWhole mantissa exponent = true
  · simp only [if_pos isWhole]
    exact ⟨_, ['0'], isDigits_natDigits _, ⟨List.cons_ne_nil _ _, rfl⟩, rfl⟩
  · simp only [if_neg isWhole]
    simp only [Decimal.isWhole, Nat.pow_eq, Bool.or_eq_true, decide_eq_true_eq,
      beq_iff_eq, not_or] at isWhole
    obtain ⟨negative, fractional⟩ := isWhole
    have places : exponent = -(exponent.natAbs : Int) := by omega
    have some : (mantissa == 0) = false := by
      refine beq_false_of_ne fun zero => fractional ?_
      rw [zero, Nat.zero_mod]
    have below := exponent_trim_shortest halved fits (by omega) fractional
    rw [← places] at below
    simp only [Binary.chars, some, Bool.false_eq_true, if_false, signed]
    exact positional_parts below

end LiveMarkup.Decimal
