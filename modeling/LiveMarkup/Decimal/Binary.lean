/-!
# Floating-point numbers as exact binary fractions

A finite floating-point number is a natural number times a power of two.  This
module reads both from the bits of a number, and gives the exact whole part of
the value.
-/

namespace LiveMarkup.Decimal

/-- A floating-point number taken apart. -/
inductive Binary where
  | nan
  | infinite (negative : Bool)
  /-- The number `mantissa · 2 ^ exponent`, with its sign.  The flag says that
  the next smaller number is only half as far away as the next larger one. -/
  | finite (negative : Bool) (mantissa : Nat) (exponent : Int) (halvedBelow : Bool)
deriving DecidableEq, Repr

/-- Take apart the bits of a number with the given widths of fraction and
exponent. -/
def Binary.ofBits (fractionWidth exponentWidth bits : Nat) : Binary :=
  let fraction := bits % Nat.pow 2 fractionWidth
  let field := bits / Nat.pow 2 fractionWidth % Nat.pow 2 exponentWidth
  let negative := bits / Nat.pow 2 (fractionWidth + exponentWidth) % 2 == 1
  let lowest : Int := 2 - Nat.pow 2 (exponentWidth - 1) - fractionWidth
  if field == Nat.pow 2 exponentWidth - 1 then
    if fraction == 0 then .infinite negative else .nan
  else if field == 0 then .finite negative fraction lowest false
  else
    .finite negative (fraction + Nat.pow 2 fractionWidth) (lowest + (field - 1))
      (fraction == 0 && field != 1)

/-- A number of double width taken apart. -/
def Binary.ofFloat (value : Float) : Binary :=
  .ofBits 52 11 value.toBits.toNat

/-- A number of single width taken apart. -/
def Binary.ofFloat32 (value : Float32) : Binary :=
  .ofBits 23 8 value.toBits.toNat

/-- The whole part of `mantissa · 2 ^ exponent`. -/
def wholePart (mantissa : Nat) (exponent : Int) : Nat :=
  if exponent < 0 then mantissa / Nat.pow 2 exponent.natAbs
  else mantissa * Nat.pow 2 exponent.natAbs

/-- Whether `mantissa · 2 ^ exponent` is a whole number. -/
def isWhole (mantissa : Nat) (exponent : Int) : Bool :=
  0 ≤ exponent || mantissa % Nat.pow 2 exponent.natAbs == 0

/-- The whole number nearest to `mantissa · 2 ^ exponent`; a half goes up. -/
def nearestWhole (mantissa : Nat) (exponent : Int) : Nat :=
  if exponent < 0 then
    (2 * mantissa + Nat.pow 2 exponent.natAbs) / (2 * Nat.pow 2 exponent.natAbs)
  else mantissa * Nat.pow 2 exponent.natAbs

end LiveMarkup.Decimal
