import LiveMarkup.World
import LiveMarkup.Text.Quoted

/-!
# How values are written

Every value has a text that a label shows for it, and one for inspection that
tells its type.
-/

namespace LiveMarkup

/-- Texts one after the other with a separator between them. -/
def joined (separator : String) : List String → String
  | [] => ""
  | [text] => text
  | text :: rest => text ++ separator ++ joined separator rest

/-- The name of a kind of style box in inspection texts. -/
def StyleBox.kindName : StyleBox → String
  | .empty => "Empty"
  | .flat => "Flat"
  | .line => "Line"
  | .texture => "Texture"

namespace World

variable {σ : Type}

mutual

/-- The text that a label shows for a value. -/
def shown (world : World σ) : Value → String
  | .null => "null"
  | .int value => Decimal.ofInt value
  | .float value => Decimal.ofFloat value
  | .bool value => if value then "true" else "false"
  | .text value => value
  | .vec2 value => value.text
  | .color value => value.text
  | .map entries => "\x7b" ++ shownEntries world " " entries ++ " \x7d"
  | .style box _ => box.constructorName ++ "(..)"
  | .resource value => "resource(" ++ value.path ++ ")"
  | .list id => "[" ++ Nat.repr (world.list id).items.length ++ " items]"
  | .object id => "<" ++ world.typeName (.object id) ++ ">"

/-- The entries of an object literal, each after a separator. -/
def shownEntries (world : World σ) (separator : String) :
    List (String × Value) → String
  | [] => ""
  | (key, value) :: rest =>
    separator ++ key ++ ": " ++ world.shown value ++ shownEntries world ", " rest

end

mutual

/-- The inspection text of a value, with a given way to inspect lists. -/
def inspectWith (world : World σ) (inspectList : ListId → String) : Value → String
  | .null => "Null"
  | .int value => "Int(" ++ Decimal.ofInt value ++ ")"
  | .float value => "Float(" ++ Decimal.ofFloat value ++ ")"
  | .bool value => "Bool(" ++ (if value then "true" else "false") ++ ")"
  | .text value => "Str(" ++ Text.quoted value ++ ")"
  | .vec2 value => "Vec2" ++ value.text
  | .color value => "Color(" ++ value.text ++ ")"
  | .map entries =>
    "\x7b" ++ joined ", "
      (inspectEntries world inspectList "" ": " "" entries) ++ "\x7d"
  | .style box properties =>
    "StyleBox \x7b kind: " ++ box.kindName ++ ", props: [" ++
      joined ", " (inspectEntries world inspectList "(" ", " ")" properties) ++
      "] \x7d"
  | .resource value =>
    "Resource \x7b path: " ++ Text.quoted value.path ++ ", .. \x7d"
  | .list id => "List(" ++ inspectList id ++ ")"
  | .object id => "Object(" ++ world.typeName (.object id) ++ ")"

/-- The inspection texts of entries, between given texts. -/
def inspectEntries (world : World σ) (inspectList : ListId → String)
    (opening middle closing : String) : List (String × Value) → List String
  | [] => []
  | (key, value) :: rest =>
    (opening ++ Text.quoted key ++ middle ++
      inspectWith world inspectList value ++ closing) ::
      inspectEntries world inspectList opening middle closing rest

end

/-- The inspection text of a value, going through at most `depth` lists inside
each other. -/
def inspectWithin (world : World σ) : Nat → Value → String
  | 0 => world.inspectWith fun _ => "[..]"
  | depth + 1 => world.inspectWith fun id =>
    "[" ++ joined ", "
      ((world.list id).items.map (world.inspectWithin depth)) ++ "]"

/-- The inspection text of a value. -/
def inspect (world : World σ) (value : Value) : String :=
  world.inspectWithin (world.lists.size + 1) value

/-- The inspection text of a handle. -/
def inspectHandle (world : World σ) (id : HandleId) : String :=
  let handle := world.handle id
  let names (entries : List String) :=
    "[" ++ joined ", " (entries.map Text.quoted) ++ "]"
  "ControllerHandle \x7b name: " ++ Text.quoted handle.name
    ++ ", nodes: " ++ names (handle.nodes.map Prod.fst)
    ++ ", imports: " ++ names (handle.imports.map Prod.fst)
    ++ ", subscriptions: " ++ Nat.repr handle.subscriptions.length ++ " \x7d"

/-- The inspection text of a widget. -/
def inspectWidget (world : World σ) (id : WidgetId) : String :=
  let widget := world.widget id
  "Widget \x7b class: " ++ Text.quoted widget.cls.name
    ++ ", children: " ++ Nat.repr widget.children.length ++ ", .. \x7d"

/-! ## Typed content -/

/-- The error for a value of another type than expected. -/
def mismatch (world : World σ) (what : String) (value : Value) : UiError :=
  typeError (.expected what (world.typeName value))

/-- A truth value. -/
def toBool (world : World σ) (value : Value) : Except UiError Bool :=
  match value with
  | .bool content => .ok content
  | _ => .error (world.mismatch "bool" value)

/-- A number in single width. -/
def toFloat32 (world : World σ) (value : Value) : Except UiError Float32 :=
  match value.number? with
  | some content => .ok content.toFloat32
  | none => .error (world.mismatch "number" value)

/-- An integer. -/
def toInt (world : World σ) (value : Value) : Except UiError Int :=
  match value with
  | .int content => .ok content
  | _ => .error (world.mismatch "int" value)

/-- A vector. -/
def toVec2 (world : World σ) (value : Value) : Except UiError Vec2 :=
  match value with
  | .vec2 content => .ok content
  | _ => .error (world.mismatch "vec2" value)

/-- A color. -/
def toColor (world : World σ) (value : Value) : Except UiError Color :=
  match value with
  | .color content => .ok content
  | _ => .error (world.mismatch "color" value)

/-- Text: a string as it is, nothing as the empty text, a number or truth value
written out. -/
def toText (world : World σ) (value : Value) : Except UiError String :=
  match value with
  | .text content => .ok content
  | .null => .ok ""
  | .int _ | .float _ | .bool _ => .ok (world.shown value)
  | _ => .error (world.mismatch "string" value)

/-- A list. -/
def toList (world : World σ) (value : Value) : Except UiError ListId :=
  match value with
  | .list content => .ok content
  | _ => .error (world.mismatch "observable list" value)

end World

end LiveMarkup
