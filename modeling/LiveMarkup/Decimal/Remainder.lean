import LiveMarkup.Decimal.Binary

/-!
# The remainder of a division

The remainder of a division whose quotient is cut to a whole number.  It is
exact: the remainder of two binary fractions is one of the same granularity, and
not larger than either.
-/

namespace LiveMarkup.Decimal

/-- The number of double width with the value `mantissa · 2 ^ exponent`, for a
mantissa below `2 ^ 53` and an exponent of at least `-1074`. -/
def composeFloat (negative : Bool) (mantissa : Nat) (exponent : Int) : Float :=
  let shift := min (52 - Nat.log2 mantissa) (exponent + 1074).toNat
  let scaled := mantissa * Nat.pow 2 shift
  let hidden := Nat.pow 2 52
  let field := if scaled < hidden then 0 else (exponent - shift + 1075).toNat
  let sign := if negative then Nat.pow 2 63 else 0
  Float.ofBits (UInt64.ofNat (sign + field * hidden + scaled % hidden))

/-- The remainder of `left` divided by `right`, with the sign of `left`. -/
def remainder (left right : Float) : Float :=
  match Binary.ofFloat left, Binary.ofFloat right with
  | .finite negative mantissa exponent _, .finite _ divisor divisorExponent _ =>
    if divisor == 0 then 0.0 / 0.0
    else
      let lowest := min exponent divisorExponent
      let units := mantissa * Nat.pow 2 (exponent - lowest).toNat
      let divisorUnits := divisor * Nat.pow 2 (divisorExponent - lowest).toNat
      composeFloat negative (units % divisorUnits) lowest
  | .finite _ _ _ _, .infinite _ => left
  | _, _ => 0.0 / 0.0

end LiveMarkup.Decimal
