import LiveMarkup.Value
import LiveMarkup.Text.KeyCase

/-!
# Widget classes

A class is a table: the properties of its widgets with what they take, the
events they raise, and the style keys they know.  Names are looked up as
registered or in any spelling with the same underscored form.
-/

namespace LiveMarkup

/-- How the value of a style override is meant. -/
inductive StyleKind where
  | constant
  | color
  | font
  | fontSize
  | icon
  | style
deriving DecidableEq, Repr

def StyleKind.name : StyleKind → String
  | .constant => "Constant"
  | .color => "Color"
  | .font => "Font"
  | .fontSize => "FontSize"
  | .icon => "Icon"
  | .style => "Style"

/-- The settings of a label's text. -/
structure LabelSettings where
  fontSize : Float32
  fontColor : Color
  outlineSize : Float32
  outlineColor : Color
  lineSpacing : Float32
deriving BEq, Inhabited

/-- The settings before any is given. -/
def LabelSettings.standard : LabelSettings :=
  { fontSize := 16
    fontColor := .white
    outlineSize := 0
    outlineColor := ⟨0, 0, 0, 1⟩
    lineSpacing := 3 }

/-- What a property of a widget holds. -/
inductive Field where
  | value (content : Value)
  /-- Rows of text, which read as a list of their own each time. -/
  | rows (texts : List String)
  /-- Label settings, absent until first given. -/
  | settings (content : Option LabelSettings)
deriving Inhabited

/-- What a property takes and how it keeps it. -/
inductive PropertyKind where
  /-- Text; numbers and truth values are written out. -/
  | text
  /-- Text of at most as many characters as another property says, if that is
  positive. -/
  | limitedText (limit : String)
  | flag (initial : Bool)
  | int (initial : Int)
  /-- A number, kept in single width. -/
  | number
  | vec2
  | color
  /-- A resource or nothing. -/
  | resource
  /-- Begin, center or end, by number or by name. -/
  | alignment
  | labelSettings
  /-- Rows of text from a list; a selection beyond the last row is dropped. -/
  | rows (selection : String)
  /-- Any value, kept as it is. -/
  | any
deriving DecidableEq, Repr

/-- What a property holds in a new widget.  A color is white. -/
def PropertyKind.initial : PropertyKind → Field
  | .text | .limitedText _ => .value (.text "")
  | .flag initial => .value (.bool initial)
  | .int initial => .value (.int initial)
  | .number => .value (.float 0)
  | .vec2 => .value (.vec2 .zero)
  | .color => .value (.color .white)
  | .resource | .any => .value .null
  | .alignment => .value (.int 0)
  | .labelSettings => .settings none
  | .rows _ => .rows []

/-- A property of a class. -/
structure PropertySpec where
  name : String
  kind : PropertyKind
deriving DecidableEq, Repr

/-- What simulated input means to widgets of a class. -/
inductive WidgetRole where
  | passive
  | button
  | checkBox
  | lineEdit
  | itemList
deriving DecidableEq, Repr, Inhabited

/-- A widget class. -/
structure WidgetClass where
  name : String
  role : WidgetRole
  properties : List PropertySpec
  events : List String
  styles : List (String × StyleKind)
deriving DecidableEq, Repr, Inhabited

namespace WidgetClass

/-- The properties of every widget. -/
def baseProperties : List PropertySpec :=
  [⟨"name", .text⟩, ⟨"visible", .flag true⟩, ⟨"position", .vec2⟩, ⟨"size", .vec2⟩,
    ⟨"modulate", .color⟩, ⟨"tooltip", .text⟩]

/-- A class with the properties of every widget and the event `ready` besides
its own. -/
def define (name : String) (properties : List PropertySpec) (events : List String)
    (styles : List (String × StyleKind)) (role : WidgetRole) : WidgetClass :=
  { name
    role
    properties := baseProperties ++ properties
    events := "ready" :: events
    styles }

/-- The property that a name means: the one of just that name, or else the one
of its underscored form. -/
def property? (cls : WidgetClass) (name : String) : Option PropertySpec :=
  (cls.properties.find? (·.name == name)).or
    (cls.properties.find? (·.name == Text.snakeCase name))

/-- The event that a name means. -/
def event? (cls : WidgetClass) (name : String) : Option String :=
  cls.events.find? fun event => event == name || event == Text.snakeCase name

/-- How a style key that a name means is to be taken. -/
def styleKind? (cls : WidgetClass) (key : String) : Option StyleKind :=
  (cls.styles.find? fun style => style.1 == key ||
    style.1 == Text.snakeCase key).map Prod.snd

/-- What the properties of a new widget hold. -/
def initialFields (cls : WidgetClass) : List (String × Field) :=
  cls.properties.map fun property => (property.name, property.kind.initial)

end WidgetClass

/-- The classes known by name. -/
abbrev Registry := List WidgetClass

namespace Registry

/-- Add a class, in place of one of the same name. -/
def register (registry : Registry) (cls : WidgetClass) : Registry :=
  registry.filter (·.name != cls.name) ++ [cls]

/-- The class of a name. -/
def find (registry : Registry) (name : String) : Option WidgetClass :=
  registry.find? (·.name == name)

end Registry

end LiveMarkup
