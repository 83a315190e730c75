/-!
# Places in a source text

Offsets count characters from zero; lines and columns count from one.
-/

namespace LiveMarkup

/-- A line and a column of a source text, both counted from one. -/
structure Position where
  line : Nat
  column : Nat
deriving DecidableEq, Repr

/-- A stretch of source text: the offsets of its first character and of the one
after its last, with the position of the first. -/
structure Span where
  start : Nat
  stop : Nat
  position : Position
deriving DecidableEq, Repr

/-- The stretch from the beginning of one span to the end of another. -/
def Span.through (first last : Span) : Span :=
  { first with stop := last.stop }

end LiveMarkup
