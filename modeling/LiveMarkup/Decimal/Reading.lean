import LiveMarkup.Decimal.Binary
import LiveMarkup.Text.Letters

/-!
# Reading numbers

Integers of 64 bits with an optional sign, and floating-point numbers: an
optional sign, digits with at most one point, an optional exponent, or one of
the words for infinity and for no number.
-/

namespace LiveMarkup.Decimal

/-- The integers that fit into 64 bits with a sign. -/
def fitsWord (value : Int) : Bool :=
  -9223372036854775808 ≤ value && value ≤ 9223372036854775807

/-- The value of a row of digits. -/
def digitsValue (digits : List Char) : Nat :=
  digits.foldl (fun value digit => value * 10 + (digit.toNat - '0'.toNat)) 0

/-- Split off an optional sign; the flag says whether it was a minus. -/
def splitSign : List Char → Bool × List Char
  | '-' :: rest => (true, rest)
  | '+' :: rest => (false, rest)
  | text => (false, text)

/-- Read an integer of 64 bits. -/
def readInt? (text : List Char) : Option Int :=
  let (negative, digits) := splitSign text
  if digits.isEmpty || !digits.all Text.isDigit then none
  else
    let size : Int := digitsValue digits
    let value := if negative then -size else size
    if fitsWord value then some value else none

/-- A number read from text, before it is rounded to a width. -/
inductive NumberText where
  | nan
  | infinite (negative : Bool)
  /-- The number `digits · 10 ^ exponent`. -/
  | decimal (negative : Bool) (digits : Nat) (exponent : Int)
deriving DecidableEq, Repr

/-- Read an optional exponent that takes up the whole text. -/
def readExponent? : List Char → Option Int
  | [] => some 0
  | mark :: rest =>
    if mark == 'e' || mark == 'E' then
      let (negative, digits) := splitSign rest
      if digits.isEmpty || !digits.all Text.isDigit then none
      else
        let size : Int := digitsValue digits
        some (if negative then -size else size)
    else none

/-- Read a number of digits, point and exponent without a sign. -/
def readDecimal? (negative : Bool) (text : List Char) : Option NumberText :=
  let whole := text.takeWhile Text.isDigit
  let afterWhole := text.dropWhile Text.isDigit
  let (fraction, rest) :=
    match afterWhole with
    | '.' :: tail => (tail.takeWhile Text.isDigit, tail.dropWhile Text.isDigit)
    | tail => ([], tail)
  if whole.isEmpty && fraction.isEmpty then none
  else
    (readExponent? rest).map fun exponent =>
      .decimal negative (digitsValue (whole ++ fraction))
        (exponent - fraction.length)

/-- Read a number. -/
def NumberText.read? (text : List Char) : Option NumberText :=
  let (negative, rest) := splitSign text
  let word := rest.map Char.toLower
  if word = ['n', 'a', 'n'] then some .nan
  else if word =
        ['i', 'n', 'f'] || word = ['i', 'n', 'f', 'i', 'n', 'i', 't', 'y'] then
    some (.infinite negative)
  else readDecimal? negative rest

/-- The power of ten just above a number of this many digits and this exponent
decides whether the number is beyond all finite ones, or below half of the
smallest. -/
def magnitude (digits : Nat) (exponent : Int) : Int :=
  (Nat.toDigits 10 digits).length + exponent

/-- Round to double width. -/
def NumberText.toFloat : NumberText → Float
  | .nan => 0.0 / 0.0
  | .infinite negative => if negative then -1.0 / 0.0 else 1.0 / 0.0
  | .decimal negative digits exponent =>
    let size :=
      if digits == 0 || magnitude digits exponent < -400 then 0.0
      else if 400 < magnitude digits exponent then 1.0 / 0.0
      else Float.ofScientific digits (exponent < 0) exponent.natAbs
    if negative then -size else size

/-- Round to single width. -/
def NumberText.toFloat32 : NumberText → Float32
  | .nan => 0.0 / 0.0
  | .infinite negative => if negative then -1.0 / 0.0 else 1.0 / 0.0
  | .decimal negative digits exponent =>
    let size : Float32 :=
      if digits == 0 || magnitude digits exponent < -400 then 0.0
      else if 400 < magnitude digits exponent then 1.0 / 0.0
      else OfScientific.ofScientific digits (decide (exponent < 0)) exponent.natAbs
    if negative then -size else size

/-- Read a number of double width. -/
def readFloat? (text : List Char) : Option Float :=
  (NumberText.read? text).map NumberText.toFloat

/-- Read a number of single width. -/
def readFloat32? (text : List Char) : Option Float32 :=
  (NumberText.read? text).map NumberText.toFloat32

end LiveMarkup.Decimal
