import LiveMarkup.Rendering.Building
import LiveMarkup.Document.Parser

/-!
# The life of a rendered document

A document is rendered for a controller below a widget of the host, together
with the documents it imports.  If anything fails on the way, everything built
so far is taken away again.
-/

namespace LiveMarkup

variable {σ : Type}

/-- The name of the controller that goes with a file. -/
def controllerName (path : String) : String :=
  Text.pascalCase (Text.fileStem path) ++ "Controller"

/-- The file of an imported document, seen from the directory of the importing
one. -/
def Import.path (entry : Import) (directory : String) : String :=
  Text.joinPath directory (entry.moduleName ++ ".guml")

/-- The directory of a file. -/
def directoryOf (path : String) : String := (Text.parentPath? path).getD "."

namespace HandleId

/-- A new handle for a controller. -/
def create (name : String) (controller : Controller) : Action σ HandleId :=
  fun world =>
  (⟨world.handles.size⟩,
    { world with handles := world.handles.add ⟨name, controller, [], [], none, []⟩ })

/-- End everything that belongs to a document: first its imports, then its
subscriptions; at last its root leaves the tree. -/
def teardown (deliver : Deliver σ) (handle : HandleId) : Action σ Unit := do
  let imports := ((← get).handle handle).imports.map Prod.snd
  modify (·.updateHandle handle ({ · with imports := [] }))
  keeping (imports.map Owned.handle)
    (imports.forM fun child => deliver (.dispose child))
  modify fun world => (world.cancelHandle handle).sweep
  match ((← get).handle handle).root with
  | none => pure ()
  | some root => keeping [.widget root] do
    modify (·.updateHandle handle ({ · with root := none }))
    match (← get).parent? root with
    | some parent => modify (·.removeChild parent root)
    | none => pure ()

/-- Dispose of a document: its controller learns of it, and then everything ends. -/
def dispose (deliver : Deliver σ) (handle : HandleId) : Action σ Unit :=
  keeping [.handle handle] do
    modify (·.noteLife (.disposed handle))
    deliver (.disposed ((← get).handle handle).controller)
    handle.teardown deliver

/-- Tell the controller of a document that it is in place. -/
def created (deliver : Deliver σ) (handle : HandleId) : Action σ Unit := do
  modify (·.noteLife (.created handle))
  deliver (.created ((← get).handle handle).controller handle)

/-- Tell the controller of a document that time has passed. -/
def update (deliver : Deliver σ) (handle : HandleId) (delta : Float) :
    Action σ Unit := do
  deliver (.updated ((← get).handle handle).controller delta)

/-- The handle of an imported document. -/
def import? (handle : HandleId) (world : World σ) (name : String) :
    Option HandleId :=
  (world.handle handle).imports.lookup name

end HandleId

/-- A new handle for a controller made by name. -/
def createController (name : String) : Attempt σ HandleId := do
  match (← getThe (World σ)).controllers.lookup name with
  | none => throw (.controllerNotFound name)
  | some controller => (HandleId.create name controller : Action σ HandleId)

/-- The handle of a document imported beside its importer. -/
def World.topController? (world : World σ) (name : String) : Option HandleId :=
  world.topControllers.lookup name

/-- Build a document and load its imports, given how to load a file below a
widget. -/
def renderTree (deliver : Deliver σ)
    (load : WidgetId → String → Attempt σ HandleId) (document : Document)
    (handle : HandleId) (host : WidgetId) (directory : String) :
    Attempt σ WidgetId := do
  let root ← buildComponent deliver ⟨handle, .handle handle⟩ document.root []
  attempting [.widget root] do
    modifyThe (World σ) (·.updateHandle handle ({ · with root := some root }))
    document.imports.forM fun entry => do
      let child ← load (if entry.topLevel then host else root)
        (entry.path directory)
      let name := ((← getThe (World σ)).handle child).name
      if entry.topLevel then
        modifyThe (World σ) fun world =>
          { world with topControllers := world.topControllers ++ [(name, child)] }
      modifyThe (World σ) (·.updateHandle handle fun old =>
        { old with imports := old.imports ++ [(name, child)] })
    return root

/-- Render a document for a handle below a host widget, given how to load a file
below a widget. -/
def renderWith (deliver : Deliver σ)
    (load : WidgetId → String → Attempt σ HandleId) (document : Document)
    (handle : HandleId) (host : WidgetId) (directory : String) :
    Attempt σ WidgetId := do
  let mark := (← getThe (World σ)).topControllers.length
  attempting [.handle handle, .widget host] do
    try
      let root ← renderTree deliver load document handle host directory
      (Toolkit.addChild host root : Action σ Unit)
      pure root
    catch error =>
      modifyThe (World σ) fun world =>
        { world with topControllers := world.topControllers.take mark }
      (handle.teardown deliver : Action σ Unit)
      throw error

/-- Load a document from a file below a host widget.  At most `depth`
documents import each other in a chain. -/
def loadWithin (deliver : Deliver σ) : Nat → WidgetId → String → Attempt σ HandleId
  | 0, _, path => throw (.unreadable path "too many nested imports")
  | depth + 1, host, path => do
    let world ← getThe (World σ)
    match world.files.read path with
    | .error reason => throw (.unreadable path reason)
    | .ok source =>
      match Document.read world.converters source with
      | .error error => throw (.parse error)
      | .ok document =>
        let handle ← createController
          (document.controller.getD (controllerName path))
        attempting [.handle handle] do
          let load := loadWithin deliver depth
          let _ ← renderWith deliver load document handle host (directoryOf path)
          (handle.created deliver : Action σ Unit)
          return handle

/-- A chain of imports without a circle is not longer than the number of files. -/
def World.importDepth (world : World σ) : Nat := world.files.texts.length + 1

/-- Load a document from a file below a host widget. -/
def load (deliver : Deliver σ) (host : WidgetId) (path : String) :
    Attempt σ HandleId := do
  loadWithin deliver (← getThe (World σ)).importDepth host path

/-- Render a document for a handle below a host widget.  Imports are found in a
directory. -/
def render (deliver : Deliver σ) (document : Document) (handle : HandleId)
    (host : WidgetId) (directory : String) : Attempt σ WidgetId := do
  let depth := (← getThe (World σ)).importDepth
  renderWith deliver (loadWithin deliver depth) document handle host directory

/-- Render a source text for a controller below a host widget. -/
def renderSource (deliver : Deliver σ) (source : String) (controller : Controller)
    (host : WidgetId) : Attempt σ HandleId := do
  let world ← getThe (World σ)
  match Document.read world.converters source with
  | .error error => throw (.parse error)
  | .ok document =>
    let name := (world.bag controller.state).typeName
    let handle ← (HandleId.create name controller : Action σ HandleId)
    attempting [.handle handle] do
      let _ ← render deliver document handle host "."
      (handle.created deliver : Action σ Unit)
      return handle

end LiveMarkup
