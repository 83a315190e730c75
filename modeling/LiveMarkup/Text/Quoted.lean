import LiveMarkup.Text.PrintTable

/-!
# Quoted text

How messages and printed expressions show a character or a string: between
quotes, with escapes for the quote itself, the backslash, the common control
characters, and everything that cannot be seen on its own.
-/

namespace LiveMarkup.Text

/-- A character that is shown as itself: a blank, or anything with a visible
form. -/
def isVisible (char : Char) : Bool :=
  if char.toNat < 128 then ' ' ≤ char && char < '\x7f'
  else inRuns visibleRuns char.toNat

/-- A character that attaches to whatever stands before it. -/
def isCombining (char : Char) : Bool :=
  if char.toNat < 128 then false else inRuns combiningRuns char.toNat

/-- The code point of a character in lower-case hexadecimal digits, without
padding. -/
def hexDigits (char : Char) : List Char :=
  Nat.toDigits 16 char.toNat

/-- A character inside quotes of the given kind. -/
def escapeChar (quote char : Char) : List Char :=
  if char == '\x00' then ['\\', '0']
  else if char == '\t' then ['\\', 't']
  else if char == '\r' then ['\\', 'r']
  else if char == '\n' then ['\\', 'n']
  else if char == '\\' || char == quote then ['\\', char]
  else if !isCombining char && isVisible char then [char]
  else '\\' :: 'u' :: '\x7b' :: hexDigits char ++ ['\x7d']

/-- The characters of a text between quotes of the given kind. -/
def quoteChars (quote : Char) (chars : List Char) : List Char :=
  quote :: chars.flatMap (escapeChar quote) ++ [quote]

/-- A character between single quotes. -/
def quotedChar (char : Char) : String :=
  String.ofList (quoteChars '\'' [char])

/-- A text between double quotes. -/
def quoted (text : String) : String :=
  String.ofList (quoteChars '"' text.toList)

end LiveMarkup.Text
