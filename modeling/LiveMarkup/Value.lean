import LiveMarkup.Expr
import LiveMarkup.Vec2
import LiveMarkup.Color

/-!
# Runtime values

What expressions evaluate to and what properties hold.  Lists and objects are
named by their identity: two values are the same list if they name the same one,
whatever it contains.
-/

namespace LiveMarkup

/-- The identity of a property bag. -/
structure BagId where
  index : Nat
deriving DecidableEq, Repr, Inhabited

/-- The identity of an observable list. -/
structure ListId where
  index : Nat
deriving DecidableEq, Repr, Inhabited

/-- The identity of a widget. -/
structure WidgetId where
  index : Nat
deriving DecidableEq, Repr, Inhabited

/-- The identity of a controller handle. -/
structure HandleId where
  index : Nat
deriving DecidableEq, Repr, Inhabited

/-- Something whose properties can be read by name. -/
inductive ObjectId where
  | bag (id : BagId)
  | widget (id : WidgetId)
  | handle (id : HandleId)
deriving DecidableEq, Repr

/-- A loaded resource: its path, a number that tells apart what different loads
produced, and the size of the content. -/
structure Resource where
  path : String
  identity : Nat
  size : Nat
deriving DecidableEq, Repr

/-- A runtime value. -/
inductive Value where
  | null
  | int (value : Int)
  | float (value : Float)
  | bool (value : Bool)
  | text (value : String)
  | vec2 (value : Vec2)
  | color (value : Color)
  /-- An object literal, its keys in the order of declaration. -/
  | map (entries : List (String × Value))
  /-- A style box with its properties. -/
  | style (box : StyleBox) (properties : List (String × Value))
  | resource (value : Resource)
  | list (id : ListId)
  | object (id : ObjectId)
deriving Inhabited

namespace Value

def isNull : Value → Bool
  | .null => true
  | _ => false

/-- A number as one of double width. -/
def number? : Value → Option Float
  | .int value => some (Float.ofInt value)
  | .float value => some value
  | _ => none

/-- An entry of an object literal. -/
def entry? (value : Value) (key : String) : Option Value :=
  match value with
  | .map entries => entries.lookup key
  | _ => none

mutual

/-- Equality of values: by content, but by identity for lists, objects and
resources. -/
def same : Value → Value → Bool
  | .null, .null => true
  | .int left, .int right => left == right
  | .float left, .float right => left == right
  | .bool left, .bool right => left == right
  | .text left, .text right => left == right
  | .vec2 left, .vec2 right => left == right
  | .color left, .color right => left == right
  | .map left, .map right => sameEntries left right
  | .style box left, .style otherBox right =>
    box == otherBox && sameEntries left right
  | .resource left, .resource right =>
    left.path == right.path && left.identity == right.identity
  | .list left, .list right => left == right
  | .object left, .object right => left == right
  | _, _ => false

/-- Equality of entry lists, in order. -/
def sameEntries : List (String × Value) → List (String × Value) → Bool
  | [], [] => true
  | (leftKey, left) :: leftRest, (rightKey, right) :: rightRest =>
    leftKey == rightKey && left.same right && sameEntries leftRest rightRest
  | _, _ => false

end

/-- The tolerance of equality between numbers of which one is a floating-point
number. -/
def tolerance : Float := 0.000001

/-- The tolerance in single width. -/
def tolerance32 : Float32 := 0.000001

/-- Whether two numbers differ by less than the tolerance. -/
def close (left right : Float) : Bool :=
  Float.abs (left - right) < tolerance

mutual

/-- Equality as expressions test it: with a tolerance between floating-point
numbers and between vectors. -/
def loose : Value → Value → Bool
  | .int left, .int right => left == right
  | .int left, .float right => close (Float.ofInt left) right
  | .float left, .int right => close left (Float.ofInt right)
  | .float left, .float right => close left right
  | .vec2 left, .vec2 right => left.near right tolerance32
  | .map left, .map right => looseEntries left right
  | left, right => left.same right

/-- Loose equality of entry lists, in order. -/
def looseEntries : List (String × Value) → List (String × Value) → Bool
  | [], [] => true
  | (leftKey, left) :: leftRest, (rightKey, right) :: rightRest =>
    leftKey == rightKey && left.loose right && looseEntries leftRest rightRest
  | _, _ => false

end

end Value

/-- Put a value under a key: in place of the old value, or at the end. -/
def putEntry (key : String) (value : α) : List (String × α) → List (String × α)
  | [] => [(key, value)]
  | (other, old) :: rest =>
    if other == key then (other, value) :: rest
    else (other, old) :: putEntry key value rest

end LiveMarkup
