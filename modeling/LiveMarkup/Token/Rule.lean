import LiveMarkup.Token
import LiveMarkup.Token.Cursor
import LiveMarkup.Text.Letters
import LiveMarkup.Text.LetterCase

/-!
# Token rules

A rule pairs a matcher, which walks a cursor over a piece of text, with a label
for what it finds. Matchers and labels are data: a lexer is a list of rules.
-/

namespace LiveMarkup

/-- A shape of text at a cursor. -/
inductive Matcher where
  /-- One character of a set. -/
  | oneOf (set : List Char)
  /-- Exactly the given text. -/
  | literal (text : List Char)
  /-- Exactly the given word, not continued by a word character. -/
  | keyword (word : List Char)
  /-- A line comment: an opening of at least one character and the rest of the
  line. -/
  | comment (first : Char) (opening : List Char)
  /-- A text between single or double quotes, on one line. -/
  | quotedText
  /-- Digits; with a fraction, digits on both sides of a dot. -/
  | number (fraction : Bool)
  /-- A letter or one of `$ @ _ #`, then word characters. -/
  | identifier
deriving DecidableEq, Repr

/-- What a rule makes of the text it matches. -/
inductive RuleLabel where
  /-- The text is dropped. -/
  | skip
  /-- The text is a token of a fixed kind. -/
  | fixed (kind : TokenKind)
  /-- The text is a name, and its spelling decides the kind. -/
  | byName
deriving DecidableEq, Repr

/-- A matcher with a label for what it finds. -/
structure Rule where
  label : RuleLabel
  shape : Matcher
deriving DecidableEq, Repr

/-- A rule that cannot be built. -/
inductive RuleError where
  | emptyComment
deriving DecidableEq, Repr

def RuleError.message : RuleError → String
  | .emptyComment => "comment prefix must not be empty"

/-- The line comments that begin with a text, which may not be empty. -/
def Matcher.commentOf (opening : String) : Except RuleError Matcher :=
  match opening.toList with
  | [] => .error .emptyComment
  | first :: rest => .ok (.comment first rest)

namespace Cursor

/-- Walk over an expected text.  The walk stops after the first character that
differs. -/
def walkLiteral : List Char → Cursor → Bool × Cursor
  | [], cursor => (true, cursor)
  | expected :: rest, cursor =>
    if cursor.peek? == some expected then walkLiteral rest cursor.advance
    else (false, cursor.advance)

/-- Walk over the characters of a class, at most `bound` of them. -/
def walkWhile (accepts : Char → Bool) : Nat → Cursor → Cursor
  | 0, cursor => cursor
  | bound + 1, cursor =>
    match cursor.peek? with
    | some char =>
      if accepts char then walkWhile accepts bound cursor.advance else cursor
    | none => cursor

/-- Walk over all characters of a class. -/
def skipWhile (cursor : Cursor) (accepts : Char → Bool) : Cursor :=
  cursor.walkWhile accepts cursor.source.size

/-- Walk over a quoted text up to its closing quote, collecting it in reverse. A
backslash shields the next character from closing the text; a line end or the
end of input is no closing. -/
def walkQuoted (quote : Char) :
    Nat → Bool → List Char → Cursor → Option (List Char) × Cursor
  | 0, _, _, cursor => (none, cursor)
  | bound + 1, escaped, collected, cursor =>
    match cursor.peek? with
    | none => (none, cursor)
    | some char =>
      let next := cursor.advance
      if char == '\n' then (none, next)
      else if escaped then walkQuoted quote bound false (char :: collected) next
      else if char == '\\' then walkQuoted quote bound true (char :: collected) next
      else if char == quote then (some collected.reverse, next)
      else walkQuoted quote bound false (char :: collected) next

end Cursor

/-- The characters that may begin a name. -/
def beginsName (char : Char) : Bool :=
  Text.isLetter char || char == '$' || char == '@' || char == '_' || char == '#'

/-- Try to match at a cursor.  The answer is the token text, if the shape is
there, with the cursor where the attempt ended; a failed attempt may have looked
ahead. -/
def Matcher.run (shape : Matcher) (cursor : Cursor) : Option (List Char) × Cursor :=
  match shape with
  | .oneOf set =>
    match cursor.peek? with
    | some char => (if set.contains char then some [char] else none, cursor.advance)
    | none => (none, cursor)
  | .literal text =>
    match cursor.walkLiteral text with
    | (true, next) => (some text, next)
    | (false, next) => (none, next)
  | .keyword word =>
    match cursor.walkLiteral word with
    | (true, next) =>
      (if next.peek?.any Text.isWordChar then none else some word, next)
    | (false, next) => (none, next)
  | .comment first opening =>
    match cursor.walkLiteral (first :: opening) with
    | (true, next) =>
      let after := next.skipWhile (· != '\n')
      (some (cursor.slice cursor.index after.index), after)
    | (false, next) => (none, next)
  | .quotedText =>
    match cursor.peek? with
    | some quote =>
      if quote == '"' || quote == '\'' then
        cursor.advance.walkQuoted quote cursor.source.size false []
      else (none, cursor.advance)
    | none => (none, cursor)
  | .number fraction =>
    let whole := cursor.skipWhile Text.isDigit
    if whole.index == cursor.index then (none, whole)
    else if !fraction then (some (cursor.slice cursor.index whole.index), whole)
    else if whole.peek? != some '.' then (none, whole.advance)
    else
      let digits := whole.advance.skipWhile Text.isDigit
      if digits.index == whole.advance.index then (none, digits)
      else (some (cursor.slice cursor.index digits.index), digits)
  | .identifier =>
    match cursor.peek? with
    | some char =>
      if beginsName char then
        let after := cursor.advance.skipWhile Text.isWordChar
        (some (cursor.slice cursor.index after.index), after)
      else (none, cursor.advance)
    | none => (none, cursor)

/-- The kind of a name.  A keyword is one whatever stands around it.  Of longer
names a sigil or a leading capital decides, but after a dot a capitalised name
is a plain one. -/
def kindOfName (name : List Char) (before : Option Char) : TokenKind :=
  if name = ['e', 'a', 'c', 'h'] then .each
  else if name = ['u', 's', 'i', 'n', 'g'] then .using
  else if name = ['i', 'm', 'p', 'o', 'r', 't'] then .importModule
  else if name = ['i', 'm', 'p', 'o', 'r', 't', '_', 't', 'o', 'p'] then .importTop
  else if name = ['r', 'e', 's', 'o', 'u', 'r', 'c', 'e'] then .resource
  else if name = ['v', 'e', 'c', '2'] then .vec2
  else match name with
    | first :: _ :: _ =>
      if first == '$' then .globalRef
      else if first == '@' then .aliasRef
      else if first == '#' then .signalName
      else if Text.isCapital first then
        if before == some '.' then .name else .component
      else .name
    | _ => .name

/-- The kind of a matched text, or nothing if it is dropped. -/
def RuleLabel.kind? (label : RuleLabel) (text : List Char) (before : Option Char) :
    Option TokenKind :=
  match label with
  | .skip => none
  | .fixed kind => some kind
  | .byName => some (kindOfName text before)

end LiveMarkup
