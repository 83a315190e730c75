import LiveMarkup.Decimal.Binary

/-!
# The shortest decimal that reads back

All decimals strictly inside the interval around a floating-point number read
back as that number; the ends of the interval do so if the mantissa is even.  Of
the decimals in the interval the ones with the fewest digits are taken, and of
these the one nearest to the number; a tie goes up.
-/

namespace LiveMarkup.Decimal

/-- The decimal number `digits · 10 ^ exponent`. -/
structure Scaled where
  digits : Nat
  exponent : Int
deriving DecidableEq, Repr

/-- The numbers that read back as one floating-point number, over a common
denominator. -/
structure Interval where
  lower : Nat
  value : Nat
  upper : Nat
  denominator : Nat
  /-- Whether the two ends belong to the interval. -/
  closed : Bool
deriving DecidableEq, Repr

/-- The interval around `mantissa · 2 ^ exponent`. -/
def Interval.around (mantissa : Nat) (exponent : Int) (halvedBelow : Bool) :
    Interval :=
  let up := if exponent < 0 then 1 else Nat.pow 2 exponent.natAbs
  let down := if exponent < 0 then Nat.pow 2 exponent.natAbs else 1
  { lower := (4 * mantissa - if halvedBelow then 1 else 2) * up
    value := 4 * mantissa * up
    upper := (4 * mantissa + 2) * up
    denominator := 4 * down
    closed := mantissa % 2 == 0 }

/-- The interval in units of `10 ^ exponent`. -/
def Interval.inUnits (interval : Interval) (exponent : Int) : Interval :=
  let scale := Nat.pow 10 exponent.natAbs
  if exponent < 0 then
    { interval with
      lower := interval.lower * scale
      value := interval.value * scale
      upper := interval.upper * scale }
  else { interval with denominator := interval.denominator * scale }

/-- Whether a whole number of units lies in the interval. -/
def Interval.contains (interval : Interval) (units : Nat) : Bool :=
  let point := units * interval.denominator
  if interval.closed then interval.lower ≤ point && point ≤ interval.upper
  else interval.lower < point && point < interval.upper

/-- The number of places before the point of a fraction of at least one. -/
def placesOfWhole (value denominator : Nat) : Nat :=
  (Nat.toDigits 10 (value / denominator)).length

/-- The number of times a fraction below one is multiplied by ten to reach one. -/
def placesBelowOne (denominator : Nat) : Nat → Nat → Nat
  | 0, _ => 0
  | bound + 1, value =>
    if denominator ≤ value then 0
    else placesBelowOne denominator bound (value * 10) + 1

/-- The exponent `k` with `10 ^ (k - 1) ≤ value < 10 ^ k`. -/
def Interval.leadingPlace (interval : Interval) : Int :=
  if interval.denominator ≤ interval.value then
    placesOfWhole interval.value interval.denominator
  else 1 - placesBelowOne interval.denominator 400 interval.value

/-- The nearer of the two whole numbers around the value; a tie goes up. -/
def Interval.nearest (interval : Interval) : Nat :=
  let floor := interval.value / interval.denominator
  if 2 * (interval.value % interval.denominator) < interval.denominator then
    floor
  else floor + 1

/-- A whole number of units in the interval, if there is one next to the value. -/
def Interval.choose? (interval : Interval) : Option Nat :=
  let floor := interval.value / interval.denominator
  match interval.contains floor, interval.contains (floor + 1) with
  | true, true => some interval.nearest
  | true, false => some floor
  | false, true => some (floor + 1)
  | false, false => none

/-- The first hit among the decimals with one more digit at each step; after
`bound` steps the nearest decimal of that length. -/
def Interval.shortestFrom (interval : Interval) (leading : Int) : Nat → Nat → Scaled
  | 0, count => ⟨(interval.inUnits (leading - count)).nearest, leading - count⟩
  | bound + 1, count =>
    match (interval.inUnits (leading - count)).choose? with
    | some units => ⟨units, leading - count⟩
    | none => shortestFrom interval leading bound (count + 1)

/-- Seventeen digits tell all numbers of either width apart. -/
def maximalDigits : Nat := 17

/-- The shortest decimal that reads back as the positive number
`mantissa · 2 ^ exponent`. -/
def shortest (mantissa : Nat) (exponent : Int) (halvedBelow : Bool) : Scaled :=
  let interval := Interval.around mantissa exponent halvedBelow
  interval.shortestFrom interval.leadingPlace (maximalDigits - 1) 1

end LiveMarkup.Decimal
