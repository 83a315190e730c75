import LiveMarkup.World.ValueText

/-!
# Reading and writing properties

What each kind of property accepts, how it keeps it, and what it reads as.
Writing may fail; label settings keep the entries before the one that failed.
-/

namespace LiveMarkup

/-- A number of single width as a value. -/
def Value.ofFloat32 (content : Float32) : Value := .float content.toFloat

/-- Label settings as an object literal. -/
def LabelSettings.toValue (settings : LabelSettings) : Value :=
  .map
    [("font_size", .ofFloat32 settings.fontSize),
      ("font_color", .color settings.fontColor),
      ("outline_size", .ofFloat32 settings.outlineSize),
      ("outline_color", .color settings.outlineColor),
      ("line_spacing", .ofFloat32 settings.lineSpacing)]

namespace World

variable {σ : Type}

/-- Change one label setting. -/
def applySetting (world : World σ) (settings : LabelSettings) (key : String)
    (value : Value) : Except UiError LabelSettings :=
  match Text.snakeCase key with
  | "font_size" => (world.toFloat32 value).map ({ settings with fontSize := · })
  | "font_color" => (world.toColor value).map ({ settings with fontColor := · })
  | "outline_size" =>
    (world.toFloat32 value).map ({ settings with outlineSize := · })
  | "outline_color" =>
    (world.toColor value).map ({ settings with outlineColor := · })
  | "line_spacing" =>
    (world.toFloat32 value).map ({ settings with lineSpacing := · })
  | _ => .error (.propertyNotFound "LabelSettings" key)

/-- Change label settings entry by entry, up to the first that fails. -/
def applySettings (world : World σ) (settings : LabelSettings) :
    List (String × Value) → LabelSettings × Except UiError Unit
  | [] => (settings, .ok ())
  | (key, value) :: rest =>
    match world.applySetting settings key value with
    | .ok changed => world.applySettings changed rest
    | .error error => (settings, .error error)

/-- The alignment that a value names, as a number. -/
def toAlignment (world : World σ) (value : Value) : Except UiError Int :=
  match value with
  | .int 0 => .ok 0
  | .int 1 => .ok 1
  | .int 2 => .ok 2
  | .text "begin" => .ok 0
  | .text "center" => .ok 1
  | .text "end" => .ok 2
  | .text other => .error (typeError (.unknownAlignment other))
  | _ => .error (world.mismatch "alignment" value)

/-- The rows that a list gives. -/
def toRows (world : World σ) (value : Value) : Except UiError (List String) :=
  match value with
  | .null => .ok []
  | .list id => (world.list id).items.mapM world.toText
  | _ => .error (world.mismatch "list" value)

end World

/-- The first characters of a text, if the limit is positive. -/
def limitText (limit : Int) (text : String) : String :=
  if 0 < limit then String.ofList (text.toList.take limit.toNat) else text

/-- The integer that a property holds. -/
def fieldInt (fields : List (String × Field)) (name : String) : Int :=
  match fields.lookup name with
  | some (.value (.int content)) => content
  | _ => 0

/-- Whether a property holds the given truth value. -/
def fieldFlag (fields : List (String × Field)) (name : String) (flag : Bool) :
    Bool :=
  match fields.lookup name with
  | some (.value (.bool content)) => content == flag
  | _ => false

namespace World

variable {σ : Type}

/-- Keep the content of a conversion in a property, if it succeeded. -/
def keep (fields : List (String × Field)) (name : String)
    (content : Except UiError Value) :
    List (String × Field) × Except UiError Unit :=
  match content with
  | .ok content => (putEntry name (.value content) fields, .ok ())
  | .error error => (fields, .error error)

/-- Write a value to a property of a widget. -/
def assignField (world : World σ) (fields : List (String × Field))
    (property : PropertySpec) (value : Value) :
    List (String × Field) × Except UiError Unit :=
  let name := property.name
  match property.kind with
  | .text => keep fields name ((world.toText value).map .text)
  | .limitedText limit =>
    keep fields name ((world.toText value).map fun text =>
      .text (limitText (fieldInt fields limit) text))
  | .flag _ => keep fields name ((world.toBool value).map .bool)
  | .int _ => keep fields name ((world.toInt value).map .int)
  | .number => keep fields name ((world.toFloat32 value).map .ofFloat32)
  | .vec2 => keep fields name ((world.toVec2 value).map .vec2)
  | .color => keep fields name ((world.toColor value).map .color)
  | .resource =>
    match value with
    | .null | .resource _ => keep fields name (.ok value)
    | _ => (fields, .error (world.mismatch "resource" value))
  | .alignment => keep fields name ((world.toAlignment value).map .int)
  | .labelSettings =>
    match value with
    | .null => (putEntry name (.settings none) fields, .ok ())
    | .map entries =>
      let settings := match fields.lookup name with
        | some (.settings (some settings)) => settings
        | _ => .standard
      let (changed, outcome) := world.applySettings settings entries
      (putEntry name (.settings (some changed)) fields, outcome)
    | _ => (fields, .error (world.mismatch "label settings" value))
  | .rows selection =>
    match world.toRows value with
    | .error error => (fields, .error error)
    | .ok texts =>
      let fields := putEntry name (.rows texts) fields
      if texts.length ≤ fieldInt fields selection then
        (putEntry selection (.value (.int (-1))) fields, .ok ())
      else (fields, .ok ())
  | .any => keep fields name (.ok value)

/-- What a property reads as.  Rows read as a new list. -/
def readField (world : World σ) : Field → Value × World σ
  | .value content => (content, world)
  | .rows texts =>
    let (id, world) := world.newList (texts.map .text)
    (.list id, world)
  | .settings none => (.null, world)
  | .settings (some settings) => (settings.toValue, world)

/-- Read a property of a widget by any spelling of its name. -/
def readProperty? (world : World σ) (id : WidgetId) (name : String) :
    Option (Value × World σ) :=
  let widget := world.widget id
  match widget.cls.property? name with
  | none => none
  | some property =>
    match widget.fields.lookup property.name with
    | none => none
    | some field => some (world.readField field)

end World

end LiveMarkup
