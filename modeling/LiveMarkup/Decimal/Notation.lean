import LiveMarkup.Decimal.Shortest

/-!
# Writing numbers

Numbers are written in positional notation, however large or small they are: the
shortest digits that read back, with no point on whole numbers.  Source text
marks a whole floating-point number by a final `.0` and shows all its digits.
-/

namespace LiveMarkup.Decimal

/-- The digits of a natural number. -/
def natDigits (value : Nat) : List Char :=
  Nat.toDigits 10 value

/-- Drop the zeros at the end of a number's digits, at most `bound` of them. -/
def Scaled.trim : Nat → Scaled → Scaled
  | 0, number => number
  | bound + 1, number =>
    if number.digits % 10 == 0 && number.digits != 0 then
      Scaled.trim bound ⟨number.digits / 10, number.exponent + 1⟩
    else number

/-- Positional notation. -/
def Scaled.positional (number : Scaled) : List Char :=
  let digits := natDigits number.digits
  let places := number.exponent.natAbs
  if 0 ≤ number.exponent then digits ++ List.replicate places '0'
  else if places < digits.length then
    digits.take (digits.length - places) ++ '.' ::
      digits.drop (digits.length - places)
  else '0' :: '.' :: List.replicate (places - digits.length) '0' ++ digits

/-- A sign before a text. -/
def signed (negative : Bool) (text : List Char) : List Char :=
  if negative then '-' :: text else text

/-- The notation of a number that has been taken apart. -/
def Binary.chars : Binary → List Char
  | .nan => ['N', 'a', 'N']
  | .infinite negative => signed negative ['i', 'n', 'f']
  | .finite negative mantissa exponent halvedBelow =>
    if mantissa == 0 then signed negative ['0']
    else
      let number := shortest mantissa exponent halvedBelow
      signed negative (number.trim maximalDigits).positional

/-- The notation of a number of double width. -/
def ofFloat (value : Float) : String :=
  String.ofList (Binary.ofFloat value).chars

/-- The notation of a number of single width. -/
def ofFloat32 (value : Float32) : String :=
  String.ofList (Binary.ofFloat32 value).chars

/-- The digits of an integer after its sign. -/
def intChars : Int → List Char
  | .ofNat value => natDigits value
  | .negSucc value => '-' :: natDigits (value + 1)

/-- The notation of an integer. -/
def ofInt (value : Int) : String :=
  String.ofList (intChars value)

/-- The notation of a floating-point literal in source text. -/
def Binary.literalChars : Binary → List Char
  | .finite negative mantissa exponent halvedBelow =>
    if isWhole mantissa exponent then
      signed negative (natDigits (wholePart mantissa exponent) ++ ['.', '0'])
    else (Binary.finite negative mantissa exponent halvedBelow).chars
  | other => other.chars

end LiveMarkup.Decimal
