import LiveMarkup.Decimal.Notation

/-!
# Vectors of two components

Positions and sizes, in single precision.
-/

namespace LiveMarkup

/-- A vector of two components. -/
structure Vec2 where
  x : Float32
  y : Float32
deriving BEq, Inhabited

namespace Vec2

def zero : Vec2 := ⟨0, 0⟩

def add (left right : Vec2) : Vec2 := ⟨left.x + right.x, left.y + right.y⟩

def sub (left right : Vec2) : Vec2 := ⟨left.x - right.x, left.y - right.y⟩

def scale (vector : Vec2) (factor : Float32) : Vec2 :=
  ⟨vector.x * factor, vector.y * factor⟩

def neg (vector : Vec2) : Vec2 := ⟨-vector.x, -vector.y⟩

/-- Whether both components differ by at most a tolerance. -/
def near (left right : Vec2) (tolerance : Float32) : Bool :=
  Float32.abs (left.x - right.x) ≤ tolerance &&
    Float32.abs (left.y - right.y) ≤ tolerance

/-- The components between parentheses. -/
def text (vector : Vec2) : String :=
  "(" ++ Decimal.ofFloat32 vector.x ++ ", " ++ Decimal.ofFloat32 vector.y ++ ")"

end Vec2

end LiveMarkup
