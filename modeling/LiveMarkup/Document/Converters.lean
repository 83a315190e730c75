import LiveMarkup.Document
import LiveMarkup.Token
import LiveMarkup.Text.KeyCase

/-!
# Converters

Transforms that a parser applies while it reads: to every token before the
grammar sees it, to every finished component before it joins its parent, to
every key, and to every property or object value. Converters of one kind apply
in order.
-/

namespace LiveMarkup

/-- The transforms of one parser. -/
structure Converters where
  tokens : List (Token → Token) := []
  components : List (Component → Component) := []
  keys : List (String → String) := []
  values : List (Expr → Expr) := []
deriving Inhabited

/-- Apply transforms in order. -/
def applyAll (transforms : List (α → α)) (value : α) : α :=
  transforms.foldl (fun current transform => transform current) value

namespace Converters

/-- No transforms. -/
def none : Converters := {}

def token (converters : Converters) : Token → Token := applyAll converters.tokens

def component (converters : Converters) : Component → Component :=
  applyAll converters.components

def key (converters : Converters) : String → String := applyAll converters.keys

def value (converters : Converters) : Expr → Expr := applyAll converters.values

end Converters

/-- The spelling that a key converter gives to keys. -/
inductive KeyCasing where
  /-- Inner capitals, as in `FontSize`. -/
  | pascal
  /-- Underscores, as in `font_size`. -/
  | snake
deriving DecidableEq, Repr

/-- Bring a key into a spelling. -/
def KeyCasing.convert : KeyCasing → String → String
  | .pascal => Text.pascalCase
  | .snake => Text.snakeCase

end LiveMarkup
