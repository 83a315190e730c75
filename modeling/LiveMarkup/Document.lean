import LiveMarkup.Expr

/-!
# Documents

A document is a tree of components with the imports and directives before it.  A
component becomes one widget; a loop repeats its template for every element of a
collection.
-/

namespace LiveMarkup

/-- When the value of a property is computed. -/
inductive Binding where
  /-- Once, when the widget is built. -/
  | once
  /-- Again whenever something it read has changed. -/
  | live
deriving DecidableEq, Repr

/-- A property entry of a component. -/
structure Property where
  key : String
  binding : Binding
  value : Expr
  span : Span

/-- A signal entry of a component: the event without its sign, and the name of
the handler. -/
structure Signal where
  event : String
  handler : String
  span : Span
deriving DecidableEq, Repr

mutual

/-- A component of a document. -/
structure Component where
  /-- The class of the widget. -/
  name : String
  aliasName : Option String
  properties : List Property
  signals : List Signal
  children : List Component
  loops : List Loop
  span : Span

/-- A template repeated for every element of a collection. -/
structure Loop where
  source : Expr
  /-- The name after `using`. -/
  itemType : String
  indexName : String
  valueName : String
  children : List Component
  loops : List Loop
  span : Span

end

/-- An import of another document. -/
structure Import where
  moduleName : String
  /-- Whether the imported root is placed beside the importing one instead of
  under it. -/
  topLevel : Bool
  span : Span
deriving DecidableEq, Repr

/-- A document. -/
structure Document where
  imports : List Import
  /-- The declared aliases in source order. -/
  aliases : List String
  /-- The controller named by a directive. -/
  controller : Option String
  root : Component

namespace Component

def property? (component : Component) (key : String) : Option Property :=
  component.properties.find? (·.key == key)

def signal? (component : Component) (event : String) : Option Signal :=
  component.signals.find? (·.event == event)

end Component

mutual

/-- A component and all components below it, templates included, parents first
and children before loops. -/
def Component.walk : Component → List Component
  | ⟨name, aliasName, properties, signals, children, loops, span⟩ =>
    ⟨name, aliasName, properties, signals, children, loops, span⟩
      :: (Component.walkAll children ++ Loop.walkAll loops)

/-- The components of the trees in a list. -/
def Component.walkAll : List Component → List Component
  | [] => []
  | component :: rest => component.walk ++ Component.walkAll rest

/-- The components of a template. -/
def Loop.walk : Loop → List Component
  | ⟨_, _, _, _, children, loops, _⟩ =>
    Component.walkAll children ++ Loop.walkAll loops

/-- The components of the templates in a list. -/
def Loop.walkAll : List Loop → List Component
  | [] => []
  | loop :: rest => loop.walk ++ Loop.walkAll rest

end

namespace Document

def import? (document : Document) (moduleName : String) : Option Import :=
  document.imports.find? (·.moduleName == moduleName)

/-- The component that declares an alias. -/
def aliasTarget? (document : Document) (aliasName : String) : Option Component :=
  document.root.walk.find? (·.aliasName == some aliasName)

end Document

end LiveMarkup
