import LiveMarkup.World.Notification
import LiveMarkup.Widget.Fields

/-!
# Operations on widgets

Writing properties, raising events and overriding styles.
-/

namespace LiveMarkup

variable {σ : Type}

/-- Read a property of an object.  A handle has the properties of its
controller, and then those named after the documents it imports. -/
def ObjectId.read (object : ObjectId) (name : String) :
    Action σ (Option Value) := do
  let world ← get
  match object with
  | .bag id => return id.get? world name
  | .widget id =>
    match world.readProperty? id name with
    | some (value, world) =>
      set world
      return some value
    | none => return none
  | .handle id =>
    let handle := world.handle id
    return (handle.controller.state.get? world name).or
      ((handle.imports.lookup name).map fun child => .object (.handle child))

namespace WidgetId

/-- Read a property. -/
def read (widget : WidgetId) (name : String) : Attempt σ Value := do
  let found :
      Option Value ← (ObjectId.read (.widget widget) name :
        Action σ (Option Value))
  match found with
  | some value => return value
  | none =>
    let cls := ((← getThe (World σ)).widget widget).cls
    throw (.propertyNotFound cls.name name)

/-- Write a property and announce it under its registered name. -/
def write (deliver : Deliver σ) (widget : WidgetId) (name : String)
    (value : Value) : Attempt σ Unit := do
  let world ← getThe (World σ)
  let old := world.widget widget
  match old.cls.property? name with
  | none => throw (.propertyNotFound old.cls.name name)
  | some property =>
    let (fields, outcome) := world.assignField old.fields property value
    modifyThe (World σ) fun world => world.updateWidget widget ({ · with fields })
    match outcome with
    | .error error => throw error
    | .ok () => ObjectId.notify deliver (.widget widget) property.name

/-- The registered name of an event. -/
def event (widget : WidgetId) (name : String) : Attempt σ String := do
  let cls := ((← getThe (World σ)).widget widget).cls
  match cls.event? name with
  | some event => return event
  | none => throw (.signalNotFound cls.name name)

/-- Let a handler run whenever an event is raised. -/
def connect (widget : WidgetId) (name : String) (handler : Handler) :
    Attempt σ Unit := do
  let event ← widget.event name
  modifyThe (World σ) fun world => world.updateWidget widget fun old =>
    { old with connections := old.connections ++ [(event, handler)] }

/-- Raise an event: run its handlers in the order they were connected. -/
def emit (deliver : Deliver σ) (widget : WidgetId) (name : String)
    (arguments : List Value) : Attempt σ Unit := do
  let event ← widget.event name
  let connections := ((← getThe (World σ)).widget widget).connections
  let handlers := connections.filter (·.1 == event)
  runAll deliver (handlers.map fun connection => .event connection.2 arguments)

/-- Raise `ready`: the widget is built. -/
def becomeReady (deliver : Deliver σ) (widget : WidgetId) : Attempt σ Unit := do
  modifyThe (World σ) (·.noteReady widget)
  widget.emit deliver "ready" []

/-- Override a style, in place of an override under the same key. -/
def overrideStyle (widget : WidgetId) (key : String) (kind : StyleKind)
    (value : Value) : Action σ Unit :=
  modify fun world => world.updateWidget widget fun old =>
    let entry : StyleOverride := ⟨key, kind, value⟩
    if old.overrides.any (·.key == key) then
      { old with overrides := old.overrides.map fun other =>
          if other.key == key then entry else other }
    else { old with overrides := old.overrides ++ [entry] }

/-- The override of a style. -/
def styleOverride? (widget : WidgetId) (world : World σ) (key : String) :
    Option StyleOverride :=
  (world.widget widget).overrides.find? (·.key == key)

/-! ## Simulated input -/

/-- Write a property without conversion and announce it. -/
def setField (deliver : Deliver σ) (widget : WidgetId) (name : String)
    (value : Value) : Action σ Unit := do
  modify fun world => world.updateWidget widget fun old =>
    { old with fields := putEntry name (.value value) old.fields }
  ObjectId.notify deliver (.widget widget) name

/-- Click on a button.  A disabled button ignores it. -/
def press (deliver : Deliver σ) (widget : WidgetId) : Attempt σ Bool := do
  let old := (← getThe (World σ)).widget widget
  if old.cls.role == .button && fieldFlag old.fields "disabled" true then
    return false
  else
    widget.emit deliver "pressed" []
    return true

/-- Click on a check box.  The answer is its new state; a disabled one ignores
it. -/
def toggle (deliver : Deliver σ) (widget : WidgetId) : Attempt σ (Option Bool) := do
  let old := (← getThe (World σ)).widget widget
  if old.cls.role != .checkBox || fieldFlag old.fields "disabled" true then
    return none
  else
    let state := !fieldFlag old.fields "button_pressed" true
    widget.setField deliver "button_pressed" (.bool state)
    widget.emit deliver "pressed" []
    widget.emit deliver "toggled" [.bool state]
    return some state

/-- Type into a line edit.  One that is not editable ignores it. -/
def input (deliver : Deliver σ) (widget : WidgetId) (text : String) :
    Attempt σ Bool := do
  let old := (← getThe (World σ)).widget widget
  if old.cls.role != .lineEdit || fieldFlag old.fields "editable" false then
    return false
  else
    let content := limitText (fieldInt old.fields "max_length") text
    widget.setField deliver "text" (.text content)
    widget.emit deliver "text_changed" [.text content]
    return true

/-- Press enter in a line edit. -/
def submit (deliver : Deliver σ) (widget : WidgetId) : Attempt σ Unit := do
  let text ← widget.read "text"
  widget.emit deliver "text_submitted" [text]

/-- Click on a row of an item list.  A row that does not exist ignores it. -/
def select (deliver : Deliver σ) (widget : WidgetId) (index : Nat) :
    Attempt σ Bool := do
  let old := (← getThe (World σ)).widget widget
  let rows := match old.fields.lookup "items" with
    | some (.rows texts) => texts.length
    | _ => 0
  if old.cls.role != .itemList || rows ≤ index then return false
  else
    widget.setField deliver "selected" (.int index)
    widget.emit deliver "item_selected" [.int index]
    return true

end WidgetId

end LiveMarkup
