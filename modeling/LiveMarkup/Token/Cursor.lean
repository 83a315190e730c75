import LiveMarkup.Position

/-!
# A cursor over a source text

The cursor notes the beginning of every line as it walks past the end of the
line before, so the position of an offset is exact once the cursor has been
there.
-/

namespace LiveMarkup

/-- A place in a source text, with the line beginnings passed on the way. -/
structure Cursor where
  /-- The characters of the text. -/
  source : Array Char
  /-- The offset of the next character. -/
  index : Nat
  /-- The offsets just after the line ends walked past so far, latest first. -/
  lineStarts : List Nat
deriving DecidableEq, Repr

namespace Cursor

/-- The cursor at the beginning of a text. -/
def ofString (text : String) : Cursor :=
  ⟨text.toList.toArray, 0, []⟩

/-- Whether the whole text lies behind the cursor. -/
def atEnd (cursor : Cursor) : Bool :=
  cursor.source.size ≤ cursor.index

/-- The next character. -/
def peek? (cursor : Cursor) : Option Char :=
  cursor.source[cursor.index]?

/-- The character just before an offset. -/
def charBefore? (cursor : Cursor) : Nat → Option Char
  | 0 => none
  | offset + 1 => cursor.source[offset]?

/-- The cursor one character on.  A line end it passes for the first time is
noted. -/
def advance (cursor : Cursor) : Cursor :=
  match cursor.peek? with
  | none => cursor
  | some char =>
    let index := cursor.index + 1
    if char == '\n' && cursor.lineStarts.headD 0 < index then
      { cursor with index, lineStarts := index :: cursor.lineStarts }
    else
      { cursor with index }

/-- The cursor one character back, or where it is at the beginning of the text. -/
def back (cursor : Cursor) : Cursor :=
  { cursor with index := cursor.index - 1 }

/-- The cursor at another offset, with all lines it has noted. -/
def moveTo (cursor : Cursor) (index : Nat) : Cursor :=
  { cursor with index }

/-- The line and column of an offset, by the lines noted so far. -/
def position (cursor : Cursor) (offset : Nat) : Position :=
  let passed := cursor.lineStarts.filter (· ≤ offset)
  ⟨passed.length + 1, offset - passed.headD 0 + 1⟩

/-- The text between two offsets. -/
def slice (cursor : Cursor) (start stop : Nat) : List Char :=
  (cursor.source.extract start stop).toList

@[simp]
theorem source_advance (cursor : Cursor) :
    cursor.advance.source = cursor.source := by
  unfold advance
  split
  · rfl
  · dsimp only
    split <;> rfl

theorem index_advance_of_peek {cursor : Cursor} {char : Char}
    (next : cursor.peek? = some char) :
    cursor.advance.index = cursor.index + 1 := by
  unfold advance
  rw [next]
  dsimp only
  split <;> rfl

end Cursor

end LiveMarkup
