import LiveMarkup.World.Ownership

/-!
# The widget tree

A widget has at most one parent, and a child is listed by its parent exactly once.
-/

namespace LiveMarkup

variable {σ : Type}

namespace World

/-- Take a child away from a parent. -/
def removeChild (world : World σ) (parent child : WidgetId) : World σ :=
  if (world.widget parent).children.contains child then
    (world.updateWidget parent fun old =>
      { old with children := old.children.erase child })
      |>.updateWidget child fun old => { old with parent := none }
  else world

/-- Take a widget away from its parent, if it has one. -/
def detach (world : World σ) (child : WidgetId) : World σ :=
  match (world.widget child).parent with
  | some parent => world.removeChild parent child
  | none => world

/-- Put a widget at the end of a parent's children, away from where it was. -/
def addChild (world : World σ) (parent child : WidgetId) : World σ :=
  ((world.detach child).updateWidget child fun old =>
    { old with parent := some parent })
    |>.updateWidget parent fun old =>
      { old with children := old.children ++ [child] }

/-- Move a child to an index, at most to the end. -/
def moveChild (world : World σ) (parent child : WidgetId) (index : Nat) : World σ :=
  world.updateWidget parent fun old =>
    if old.children.contains child then
      let others := old.children.erase child
      { old with children := others.take index ++ child :: others.drop index }
    else old

/-- The index of a child. -/
def indexOf? (world : World σ) (parent child : WidgetId) : Option Nat :=
  (world.widget parent).children.findIdx? (· == child)

/-- The parent of a widget, if there is one and it exists. -/
def parent? (world : World σ) (child : WidgetId) : Option WidgetId :=
  (world.widget child).parent.bind world.existingWidget?

/-- The text that a property of a widget holds. -/
def fieldText? (world : World σ) (id : WidgetId) (property : String) :
    Option String :=
  let widget := world.widget id
  match (widget.cls.property? property).bind (widget.fields.lookup ·.name) with
  | some (.value (.text content)) => some content
  | _ => none

/-- The name given to a widget. -/
def widgetName (world : World σ) (id : WidgetId) : String :=
  match (world.widget id).fields.lookup "name" with
  | some (.value (.text content)) => content
  | _ => ""

/-- The first widget of a name in a tree of at most `depth` levels, parents
first. -/
def findWithin (world : World σ) (name : String) : Nat → WidgetId → Option WidgetId
  | 0, _ => none
  | depth + 1, id =>
    if world.widgetName id == name then some id
    else (world.widget id).children.findSome? (world.findWithin name depth)

/-- The first widget of a name below a widget or the widget itself, parents
first. -/
def find? (world : World σ) (id : WidgetId) (name : String) : Option WidgetId :=
  world.findWithin name (world.widgets.size + 1) id

/-- The outline of a tree of at most `depth` levels: a line for every widget,
indented by level, with its class, its name and its text. -/
def outlineWithin (world : World σ) : Nat → Nat → WidgetId → String
  | 0, _, _ => ""
  | depth + 1, level, id =>
    let widget := world.widget id
    let name := world.widgetName id
    let line := String.ofList (List.replicate (2 * level) ' ') ++ widget.cls.name
      ++ (if name.isEmpty then "" else " #" ++ name)
      ++ (match world.fieldText? id "text" with
        | some content => " " ++ Text.quoted content
        | none => "")
      ++ "\n"
    line ++ String.join
      (widget.children.map (world.outlineWithin depth (level + 1)))

/-- The outline of a widget and everything below it. -/
def outline (world : World σ) (id : WidgetId) : String :=
  world.outlineWithin (world.widgets.size + 1) 0 id

end World

end LiveMarkup
