import LiveMarkup.Widget.Operations
import LiveMarkup.Widget.Tree

/-!
# The widget set as rendering uses it

Rendering creates and changes widgets only through these operations.  Each is
entered in the journal before it takes effect.
-/

namespace LiveMarkup

/-- Enter a call in the journal. -/
def World.record {σ : Type} (world : World σ) (call : ToolkitCall) : World σ :=
  { world with journal := call :: world.journal }

namespace Toolkit

variable {σ : Type}

/-- Create a widget of the class of a name. -/
def create (name : String) : Attempt σ WidgetId := do
  modifyThe (World σ) (·.record (.create name))
  let world ← getThe (World σ)
  match world.registry.find name with
  | none => throw (.componentNotFound name)
  | some cls =>
    let (widget, world) := world.newWidget cls
    set world
    return widget

/-- Write a property. -/
def setProperty (deliver : Deliver σ) (widget : WidgetId) (property : String)
    (value : Value) : Attempt σ Unit := do
  modifyThe (World σ) fun world =>
    world.record (.set widget property (world.shown value))
  widget.write deliver property value

/-- Read a property. -/
def getProperty (widget : WidgetId) (property : String) : Attempt σ Value := do
  modifyThe (World σ) (·.record (.get widget property))
  widget.read property

/-- Put a child at the end of a parent's children. -/
def addChild (parent child : WidgetId) : Action σ Unit := do
  modify (·.record (.add parent child))
  modify (·.addChild parent child)

/-- Take a child away from its parent. -/
def removeChild (parent child : WidgetId) : Action σ Unit := do
  modify (·.record (.remove parent child))
  modify (·.removeChild parent child)

/-- Move a child to an index. -/
def moveChild (parent child : WidgetId) (index : Nat) : Action σ Unit := do
  modify (·.record (.move parent child index))
  modify (·.moveChild parent child index)

/-- Override a style. -/
def overrideStyle (widget : WidgetId) (key : String) (kind : StyleKind)
    (value : Value) : Action σ Unit := do
  modify fun world => world.record (.style widget key kind (world.shown value))
  widget.overrideStyle key kind value

/-- Let a handler run whenever an event is raised. -/
def connect (widget : WidgetId) (event : String) (handler : Handler) :
    Attempt σ Unit := do
  modifyThe (World σ) (·.record (.connect widget event))
  widget.connect event handler

end Toolkit

end LiveMarkup
