import LiveMarkup.Text.LetterCase

/-!
# The two spellings of a key

A key may be written as one word with inner capitals (`FontSize`) or as small
words joined by underscores or hyphens (`font_size`, `font-size`).  This module
converts to either spelling and derives controller names from file paths.
-/

namespace LiveMarkup.Text

/-- Capitalise the next letter and every letter after a separator, dropping the
separators.  The flag says whether the next letter begins a word. -/
def joinWords : Bool → List Char → List Char
  | _, [] => []
  | atStart, char :: rest =>
    if char == '_' || char == '-' then joinWords true rest
    else if atStart then capitals char ++ joinWords false rest
    else char :: joinWords false rest

/-- Write capitals small, each after an underscore unless it begins the text or
follows one, and hyphens as underscores.  The argument is the last character
written, if any was read. -/
def splitWords : Option Char → List Char → List Char
  | _, [] => []
  | last, char :: rest =>
    if char == '-' then '_' :: splitWords (some '_') rest
    else if isCapital char then
      let small := smalls char
      let separator := if last.isSome && last != some '_' then ['_'] else []
      separator ++ small ++ splitWords (small.getLast?.or last) rest
    else char :: splitWords (some char) rest

/-- The spelling with inner capitals: `font_size` and `font-size` give
`FontSize`. -/
def pascalCase (text : String) : String :=
  String.ofList (joinWords true text.toList)

/-- The spelling with underscores: `FontSize` and `font-size` give `font_size`. -/
def snakeCase (text : String) : String :=
  String.ofList (splitWords none text.toList)

/-- Two keys are equal up to spelling if their spellings with underscores agree. -/
def sameKey (left right : String) : Bool :=
  snakeCase left == snakeCase right

end LiveMarkup.Text
