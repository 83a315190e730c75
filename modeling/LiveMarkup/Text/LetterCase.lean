import LiveMarkup.Text.CaseTable

/-!
# Letter case

Capitals, and the full case mappings of single characters.  A mapping does not
look at the neighbours of a character, and may give more than one character.
-/

namespace LiveMarkup.Text

/-- A capital letter: a character with the property Uppercase. -/
def isCapital (char : Char) : Bool :=
  if char.toNat < 128 then 'A' ≤ char && char ≤ 'Z'
  else inRuns capitalRuns char.toNat

/-- The image of a code point from 128 on under a case mapping. -/
def mapCase (shifts : List CodeShift) (sequences : List (Nat × List Nat))
    (char : Char) : List Char :=
  match sequences.lookup char.toNat with
  | some codes => codes.map Char.ofNat
  | none =>
    match shifted? shifts char.toNat with
    | some code => [Char.ofNat code]
    | none => [char]

/-- The capital form of a character. -/
def capitals (char : Char) : List Char :=
  if char.toNat < 128 then [char.toUpper]
  else mapCase capitalShifts capitalSequences char

/-- The small form of a character. -/
def smalls (char : Char) : List Char :=
  if char.toNat < 128 then [char.toLower]
  else mapCase smallShifts smallSequences char

end LiveMarkup.Text
