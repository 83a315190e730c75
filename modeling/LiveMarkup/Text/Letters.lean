import LiveMarkup.Text.LetterTable

/-!
# Letters, numerals and word characters

The three character classes that names are made of.  ASCII characters are
decided by comparison, all others by the Unicode tables.
-/

namespace LiveMarkup.Text

/-- A decimal digit of ASCII. -/
def isDigit (char : Char) : Bool :=
  '0' ≤ char && char ≤ '9'

/-- A letter of ASCII. -/
def isAsciiLetter (char : Char) : Bool :=
  ('a' ≤ char && char ≤ 'z') || ('A' ≤ char && char ≤ 'Z')

/-- A letter: a character with the property Alphabetic. -/
def isLetter (char : Char) : Bool :=
  if char.toNat < 128 then isAsciiLetter char else inRuns letterRuns char.toNat

/-- A numeral: a character whose general category is a number. -/
def isNumeral (char : Char) : Bool :=
  if char.toNat < 128 then isDigit char else inRuns numeralRuns char.toNat

/-- A character that continues a name: a letter, a numeral or an underscore. -/
def isWordChar (char : Char) : Bool :=
  isLetter char || isNumeral char || char == '_'

/-- A digit continues a name. -/
theorem isWordChar_of_isDigit {char : Char} (digit : isDigit char = true) :
    isWordChar char = true := by
  have small : char.toNat < 128 := by
    simp only [isDigit, Bool.and_eq_true, decide_eq_true_eq] at digit
    have upper : char.toNat ≤ '9'.toNat := digit.2
    exact Nat.lt_of_le_of_lt upper (by decide)
  simp [isWordChar, isNumeral, small, digit]

end LiveMarkup.Text
