import LiveMarkup.Store
import LiveMarkup.Widget.Builtin
import LiveMarkup.Document.Converters
import LiveMarkup.UiError
import LiveMarkup.Files

/-!
# The world

Everything that exists while documents are shown: objects and lists with their
listeners, the widget tree, what rendering has left behind to keep it in step,
and the environment in which names are looked up.  The world is one value, and
every operation is a function on it.
-/

namespace LiveMarkup

/-- The identity of a live property. -/
structure BindingId where
  index : Nat
deriving DecidableEq, Repr, Inhabited

/-- The identity of a rendered loop. -/
structure BlockId where
  index : Nat
deriving DecidableEq, Repr, Inhabited

/-- The identity of what a loop has built for one element. -/
structure ItemId where
  index : Nat
deriving DecidableEq, Repr, Inhabited

/-! ## Listeners -/

/-- Registered listeners in order, each under a number of its own. -/
structure Listeners (α : Type) where
  next : Nat
  entries : List (Nat × α)
deriving Inhabited

namespace Listeners

def none : Listeners α := ⟨0, []⟩

/-- Register a listener under the next number. -/
def subscribe (listeners : Listeners α) (listener : α) : Listeners α :=
  ⟨listeners.next + 1, listeners.entries ++ [(listeners.next, listener)]⟩

/-- Remove the listener of a number. -/
def unsubscribe (listeners : Listeners α) (number : Nat) : Listeners α :=
  { listeners with entries := listeners.entries.eraseP (·.1 == number) }

/-- Whether a number has a listener. -/
def has (listeners : Listeners α) (number : Nat) : Bool :=
  listeners.entries.any (·.1 == number)

def count (listeners : Listeners α) : Nat := listeners.entries.length

/-- The listeners in order of registration. -/
def toList (listeners : Listeners α) : List α := listeners.entries.map Prod.snd

end Listeners

/-- Who hears of a changed property. -/
inductive PropertyListener where
  /-- A live property that read the named property in one of its evaluations. -/
  | binding (id : BindingId) (generation : Nat) (property : String)
  /-- The host, by a number of its own. -/
  | host (number : Nat)
deriving DecidableEq, Repr

/-- Who hears of a changed list. -/
inductive ListListener where
  | block (id : BlockId)
  | host (number : Nat)
deriving DecidableEq, Repr

/-- One change of a list. -/
inductive ListChange where
  /-- A value was appended. -/
  | add (index : Nat) (value : Value)
  /-- A value was put before the one that was at the index. -/
  | insert (index : Nat) (value : Value)
  | remove (index : Nat) (value : Value)

namespace ListChange

def index : ListChange → Nat
  | .add index _ => index
  | .insert index _ => index
  | .remove index _ => index

def value : ListChange → Value
  | .add _ value => value
  | .insert _ value => value
  | .remove _ value => value

def isRemove : ListChange → Bool
  | .remove _ _ => true
  | _ => false

end ListChange

/-- A registration to be undone, in the words of who made it. -/
inductive Subscription where
  /-- A listener of an object's properties. -/
  | object (id : ObjectId) (number : Nat)
  /-- A listener of a list. -/
  | list (id : ListId) (number : Nat)
  /-- Everything a live property listens to. -/
  | binding (id : BindingId)
deriving DecidableEq, Repr

/-! ## Objects -/

/-- Named values with listeners to their changes. -/
structure Bag where
  typeName : String
  values : List (String × Value)
  listeners : Listeners PropertyListener
deriving Inhabited

/-- A list of values with listeners to its changes. -/
structure ObservableList where
  items : List Value
  listeners : Listeners ListListener
deriving Inhabited

/-- A controller: the bag with its state, and the handlers that the host
provides. -/
structure Controller where
  state : BagId
  /-- Whether the host takes part in its life. -/
  scripted : Bool
  handlers : List String
deriving DecidableEq, Repr, Inhabited

/-- What a widget does when it raises an event. -/
inductive Handler where
  /-- A named handler of a controller. -/
  | controller (controller : Controller) (name : String)
  /-- The host, by a number of its own. -/
  | host (number : Nat)
deriving DecidableEq, Repr

/-- A value that replaces one of the theme. -/
structure StyleOverride where
  key : String
  kind : StyleKind
  value : Value

/-- A widget. -/
structure Widget where
  cls : WidgetClass
  /-- What its properties hold, by their registered names. -/
  fields : List (String × Field)
  children : List WidgetId
  parent : Option WidgetId
  /-- The handlers of its events, in the order they were connected. -/
  connections : List (String × Handler)
  overrides : List StyleOverride
  listeners : Listeners PropertyListener
deriving Inhabited

/-- A widget of a class as it is created. -/
def Widget.ofClass (cls : WidgetClass) : Widget :=
  { cls
    fields := cls.initialFields
    children := []
    parent := none
    connections := []
    overrides := []
    listeners := .none }

/-- A rendered document with its controller. -/
structure Handle where
  name : String
  controller : Controller
  /-- The widgets declared with an alias. -/
  nodes : List (String × WidgetId)
  /-- The handles of imported documents, by name. -/
  imports : List (String × HandleId)
  root : Option WidgetId
  subscriptions : List Subscription
deriving Inhabited

/-! ## What rendering leaves behind -/

/-- The variables of the loops around a place, innermost first. -/
abbrev Scope := List (List (String × Value))

/-- The innermost value of a variable. -/
def Scope.lookup? (scope : Scope) (name : String) : Option Value :=
  scope.findSome? (·.lookup name)

/-- A property that is computed again when something it read has changed.  It
does not keep its widget in existence. -/
structure LiveBinding where
  handle : HandleId
  widget : WidgetId
  key : String
  expr : Expr
  scope : Scope
  subscriptions : List Subscription
  /-- The number of evaluations.  Listeners of earlier ones no longer count. -/
  generation : Nat
  /-- Whether it is being refreshed. -/
  busy : Bool
  /-- What the current evaluation has read so far. -/
  watched : List (ObjectId × String)
  /-- What any evaluation has read. -/
  everWatched : List (ObjectId × String)
  /-- What the latest finished evaluation gave. -/
  outcome : Option (Except UiError Value)

/-- The place before the first widget of a loop: after the widget it leads to,
if it leads to one, or else in front.  It keeps nothing in existence. -/
inductive Anchor where
  | front
  | widget (id : WidgetId)
  /-- After everything that another loop has built. -/
  | block (id : BlockId)
  /-- After everything built before an item of a surrounding loop. -/
  | itemStart (block : BlockId) (item : ItemId)
deriving DecidableEq, Repr

/-- A rendered loop.  It does not keep its parent in existence. -/
structure Block where
  template : Loop
  handle : HandleId
  parent : WidgetId
  anchor : Anchor
  /-- The variables around the loop. -/
  scope : Scope
  items : List ItemId
  /-- Cleared when nothing owns the block any more. -/
  live : Bool

/-- What a loop has built for one element. -/
structure Item where
  widgets : List WidgetId
  nested : List BlockId
  subscriptions : List Subscription
  /-- Cleared when nothing owns the item any more. -/
  live : Bool
deriving Inhabited

/-- Something that owns other things or is owned by them. -/
inductive Owned where
  | bag (id : BagId)
  | list (id : ListId)
  | widget (id : WidgetId)
  | handle (id : HandleId)
  | binding (id : BindingId)
  | block (id : BlockId)
  | item (id : ItemId)
deriving DecidableEq, Repr

/-! ## The environment -/

/-- Where resources come from. -/
inductive ResourceLoader where
  | absent
  /-- Files below a directory. -/
  | directory (base : String)
  /-- A function from a path to the size of the content, or to the reason why
  there is none. -/
  | custom (load : String → Except String Nat)

/-- The size of the resource at a path, or the reason why there is none. -/
def ResourceLoader.load (loader : ResourceLoader) (files : Files) (path : String) :
    Except String Nat :=
  match loader with
  | .absent => .error "no resource loader installed"
  | .directory base =>
    (files.read (Text.joinPath base path)).map String.utf8ByteSize
  | .custom load => load path

/-- What rendering asks of the widget set, in the order it does. -/
inductive ToolkitCall where
  | create (className : String)
  | set (widget : WidgetId) (property shown : String)
  | get (widget : WidgetId) (property : String)
  | add (parent child : WidgetId)
  | remove (parent child : WidgetId)
  | move (parent child : WidgetId) (index : Nat)
  | style (widget : WidgetId) (key : String) (kind : StyleKind) (shown : String)
  | connect (widget : WidgetId) (event : String)
deriving DecidableEq, Repr

/-- What a controller has been told of the life of its document. -/
inductive LifeEvent where
  /-- The document is in place. -/
  | created (handle : HandleId)
  /-- The document is about to go. -/
  | disposed (handle : HandleId)
deriving DecidableEq, Repr

/-- The world, with the state of a host that takes part in it. -/
structure World (σ : Type) where
  bags : Store Bag := .empty
  lists : Store ObservableList := .empty
  widgets : Store Widget := .empty
  handles : Store Handle := .empty
  bindings : Store LiveBinding := .empty
  blocks : Store Block := .empty
  items : Store Item := .empty
  globals : List (String × Value) := []
  registry : Registry := Builtin.registry
  resources : ResourceLoader := .absent
  /-- The controllers that can be made by name. -/
  controllers : List (String × Controller) := []
  converters : Converters := .none
  /-- The handles of documents imported beside their importers, by name. -/
  topControllers : List (String × HandleId) := []
  /-- What has gone wrong while changes were carried through. -/
  errors : List UiError := []
  files : Files := .empty
  /-- The number of resources loaded so far. -/
  loaded : Nat := 0
  /-- What the host keeps in existence. -/
  held : List Owned := []
  /-- What the operations in progress keep in existence. -/
  pins : List Owned := []
  /-- The calls of the widget set so far, latest first. -/
  journal : List ToolkitCall := []
  /-- The widgets that were ready, in order, each with the number of calls of
  the widget set until then. -/
  readied : List (WidgetId × Nat) := []
  /-- What controllers have been told of the lives of their documents, in order. -/
  lives : List LifeEvent := []
  /-- Whether callbacks have ever been nested more deeply than allowed. -/
  exhausted : Bool := false
  host : σ

namespace World

variable {σ : Type}

/-! An identity that was never handed out reads as an empty object. -/

def bag (world : World σ) (id : BagId) : Bag :=
  (world.bags.get? id.index).getD default

def list (world : World σ) (id : ListId) : ObservableList :=
  (world.lists.get? id.index).getD default

def widget (world : World σ) (id : WidgetId) : Widget :=
  (world.widgets.get? id.index).getD default

def handle (world : World σ) (id : HandleId) : Handle :=
  (world.handles.get? id.index).getD default

def binding? (world : World σ) (id : BindingId) : Option LiveBinding :=
  world.bindings.get? id.index

def block? (world : World σ) (id : BlockId) : Option Block :=
  world.blocks.get? id.index

def item (world : World σ) (id : ItemId) : Item :=
  (world.items.get? id.index).getD default

/-! ### New things -/

/-- A new bag with some values. -/
def newBag (world : World σ) (typeName : String) (values : List (String × Value)) :
    BagId × World σ :=
  (⟨world.bags.size⟩,
    { world with bags := world.bags.add ⟨typeName, values, .none⟩ })

/-- A new list of some values. -/
def newList (world : World σ) (values : List Value) : ListId × World σ :=
  (⟨world.lists.size⟩, { world with lists := world.lists.add ⟨values, .none⟩ })

/-- A new widget of a class. -/
def newWidget (world : World σ) (cls : WidgetClass) : WidgetId × World σ :=
  (⟨world.widgets.size⟩, { world with widgets := world.widgets.add (.ofClass cls) })

/-- A resource that differs from all others. -/
def newResource (world : World σ) (path : String) (size : Nat) :
    Resource × World σ :=
  (⟨path, world.loaded, size⟩, { world with loaded := world.loaded + 1 })

/-! ### Changes -/

def updateBag (world : World σ) (id : BagId) (change : Bag → Bag) : World σ :=
  { world with bags := world.bags.update id.index change }

def updateList (world : World σ) (id : ListId)
    (change : ObservableList → ObservableList) : World σ :=
  { world with lists := world.lists.update id.index change }

def updateWidget (world : World σ) (id : WidgetId) (change : Widget → Widget) :
    World σ :=
  { world with widgets := world.widgets.update id.index change }

def updateHandle (world : World σ) (id : HandleId) (change : Handle → Handle) :
    World σ :=
  { world with handles := world.handles.update id.index change }

def updateBinding (world : World σ) (id : BindingId)
    (change : LiveBinding → LiveBinding) : World σ :=
  { world with bindings := world.bindings.update id.index change }

def updateBlock (world : World σ) (id : BlockId) (change : Block → Block) :
    World σ :=
  { world with blocks := world.blocks.update id.index change }

def updateItem (world : World σ) (id : ItemId) (change : Item → Item) : World σ :=
  { world with items := world.items.update id.index change }

/-- Note what a controller is told. -/
def noteLife (world : World σ) (event : LifeEvent) : World σ :=
  { world with lives := world.lives ++ [event] }

/-- Note that a widget is ready. -/
def noteReady (world : World σ) (widget : WidgetId) : World σ :=
  { world with readied := world.readied ++ [(widget, world.journal.length)] }

/-- The bag whose listeners hear of an object's changes, or the widget itself. -/
def announcer (world : World σ) : ObjectId → BagId ⊕ WidgetId
  | .bag id => .inl id
  | .widget id => .inr id
  | .handle id => .inl (world.handle id).controller.state

/-- The listeners of an object's changes. -/
def propertyListeners (world : World σ) (id : ObjectId) :
    Listeners PropertyListener :=
  match world.announcer id with
  | .inl bag => (world.bag bag).listeners
  | .inr widget => (world.widget widget).listeners

/-- Change the listeners of an object's changes. -/
def updatePropertyListeners (world : World σ) (id : ObjectId)
    (change : Listeners PropertyListener → Listeners PropertyListener) : World σ :=
  match world.announcer id with
  | .inl bag =>
    world.updateBag bag fun old =>
      { old with listeners := change old.listeners }
  | .inr widget =>
    world.updateWidget widget fun old =>
      { old with listeners := change old.listeners }

/-- The name of a value's type. -/
def typeName (world : World σ) : Value → String
  | .null => "null"
  | .int _ => "int"
  | .float _ => "float"
  | .bool _ => "bool"
  | .text _ => "string"
  | .vec2 _ => "vec2"
  | .color _ => "color"
  | .map _ => "object literal"
  | .style _ _ => "style box"
  | .resource _ => "resource"
  | .list _ => "list"
  | .object (.bag id) => (world.bag id).typeName
  | .object (.widget id) => (world.widget id).cls.name
  | .object (.handle id) => (world.handle id).name

end World

/-- A function of the world that may change it. -/
abbrev Action (σ : Type) := StateM (World σ)

/-- An action that may fail.  What it has done before it fails stays done. -/
abbrev Attempt (σ : Type) := ExceptT UiError (StateM (World σ))

/-- Fail for a value of the wrong type. -/
def typeError (problem : TypeProblem) : UiError := .type problem

end LiveMarkup
