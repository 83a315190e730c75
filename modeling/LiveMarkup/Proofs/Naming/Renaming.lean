import LiveMarkup.Document

/-!
# Keys and their renaming

The keys of a document that have to differ from each other stand in lists: the
property keys of a component, its signal events, and the keys of an object
literal.  A key converter renames all of them and changes nothing else.
-/

namespace LiveMarkup

/-! ## Lists of keys -/

mutual

/-- The keys of every object literal in an expression, one list for each literal. -/
def Expr.keyLists : Expr → List (List String)
  | .int _ _ | .float _ _ | .bool _ _ | .text _ _ | .null _ | .reference _ => []
  | .vec2 x y _ => x.keyLists ++ y.keyLists
  | .color red green blue alpha _ =>
      red.keyLists ++ green.keyLists ++ blue.keyLists ++ alpha.keyLists
  | .object entries _ => entries.map Prod.fst :: Expr.keyListsIn entries
  | .resource path _ => path.keyLists
  | .style _ none _ => []
  | .style _ (some properties) _ => properties.keyLists
  | .applyPrefix _ right _ _ => right.keyLists
  | .applyInfix _ left right _ _ => left.keyLists ++ right.keyLists

/-- The keys of every object literal in the values of entries. -/
def Expr.keyListsIn : List (String × Expr) → List (List String)
  | [] => []
  | (_, value) :: rest => value.keyLists ++ Expr.keyListsIn rest

end

mutual

/-- All expressions written in a component and below it: the values of
properties and the sources of loops. -/
def Component.expressions : Component → List Expr
  | ⟨_, _, properties, _, children, loops, _⟩ =>
      properties.map Property.value ++
        (Component.expressionsIn children ++ Loop.expressionsIn loops)

/-- All expressions written in some components. -/
def Component.expressionsIn : List Component → List Expr
  | [] => []
  | component :: rest => component.expressions ++ Component.expressionsIn rest

/-- All expressions written in a loop. -/
def Loop.expressions : Loop → List Expr
  | ⟨source, _, _, _, children, loops, _⟩ =>
      source :: (Component.expressionsIn children ++ Loop.expressionsIn loops)

/-- All expressions written in some loops. -/
def Loop.expressionsIn : List Loop → List Expr
  | [] => []
  | loop :: rest => loop.expressions ++ Loop.expressionsIn rest

end

/-- The property keys and the signal events of a component itself. -/
def Component.ownKeyLists (component : Component) : List (List String) :=
  [component.properties.map Property.key, component.signals.map Signal.event]

/-- The lists of keys of a component and of everything below it. -/
def Component.keyLists (component : Component) : List (List String) :=
  component.walk.flatMap Component.ownKeyLists ++
    component.expressions.flatMap Expr.keyLists

/-- The lists of keys of a loop and of everything below it. -/
def Loop.keyLists (loop : Loop) : List (List String) :=
  loop.walk.flatMap Component.ownKeyLists ++ loop.expressions.flatMap Expr.keyLists

/-! ## Renaming -/

mutual

/-- Rename the keys of all object literals in an expression. -/
def Expr.rename (change : String → String) : Expr → Expr
  | .int value span => .int value span
  | .float value span => .float value span
  | .bool value span => .bool value span
  | .text value span => .text value span
  | .null span => .null span
  | .vec2 x y span => .vec2 (x.rename change) (y.rename change) span
  | .color red green blue alpha span =>
      .color (red.rename change) (green.rename change) (blue.rename change)
        (alpha.rename change) span
  | .object entries span => .object (Expr.renameIn change entries) span
  | .resource path span => .resource (path.rename change) span
  | .style box none span => .style box none span
  | .style box (some properties) span =>
    .style box (some (properties.rename change)) span
  | .reference target => .reference target
  | .applyPrefix op right grouped span =>
    .applyPrefix op (right.rename change) grouped span
  | .applyInfix op left right grouped span =>
      .applyInfix op (left.rename change) (right.rename change) grouped span

/-- Rename the keys of entries, and those in their values. -/
def Expr.renameIn (change : String → String) :
    List (String × Expr) → List (String × Expr)
  | [] => []
  | (key, value) :: rest =>
    (change key, value.rename change) :: Expr.renameIn change rest

end

/-- Rename the key of a property, and those in its value. -/
def Property.rename (change : String → String) (property : Property) : Property :=
  { property with
    key := change property.key
    value := property.value.rename change }

/-- Rename the event of a signal. -/
def Signal.rename (change : String → String) (signal : Signal) : Signal :=
  { signal with event := change signal.event }

mutual

/-- Rename all keys of a component and of everything below it. -/
def Component.rename (change : String → String) : Component → Component
  | ⟨name, aliasName, properties, signals, children, loops, span⟩ =>
      ⟨name, aliasName, properties.map (Property.rename change),
        signals.map (Signal.rename change), Component.renameIn change children,
        Loop.renameIn change loops, span⟩

/-- Rename all keys of some components. -/
def Component.renameIn (change : String → String) : List Component → List Component
  | [] => []
  | component :: rest => component.rename change :: Component.renameIn change rest

/-- Rename all keys in a loop. -/
def Loop.rename (change : String → String) : Loop → Loop
  | ⟨source, itemType, indexName, valueName, children, loops, span⟩ =>
      ⟨source.rename change, itemType, indexName, valueName,
        Component.renameIn change children, Loop.renameIn change loops, span⟩

/-- Rename all keys in some loops. -/
def Loop.renameIn (change : String → String) : List Loop → List Loop
  | [] => []
  | loop :: rest => loop.rename change :: Loop.renameIn change rest

end

/-- Rename all keys of a document. -/
def Document.rename (change : String → String) (document : Document) : Document :=
  { document with root := document.root.rename change }

/-! ## Renamed lists of keys -/

theorem Expr.keyListsIn_eq_flatMap (entries : List (String × Expr)) :
    Expr.keyListsIn entries = entries.flatMap fun entry => entry.2.keyLists := by
  induction entries with
  | nil => rfl
  | cons entry rest induction => simp [Expr.keyListsIn, induction]

theorem Expr.renameIn_eq_map (change : String → String)
    (entries : List (String × Expr)) :
    Expr.renameIn change entries =
      entries.map fun entry => (change entry.1, entry.2.rename change) := by
  induction entries with
  | nil => rfl
  | cons entry rest induction => simp [Expr.renameIn, induction]

theorem Component.renameIn_eq_map (change : String → String)
    (components : List Component) :
    Component.renameIn change components =
      components.map (Component.rename change) := by
  induction components with
  | nil => rfl
  | cons component rest induction => simp [Component.renameIn, induction]

theorem Loop.renameIn_eq_map (change : String → String) (loops : List Loop) :
    Loop.renameIn change loops = loops.map (Loop.rename change) := by
  induction loops with
  | nil => rfl
  | cons loop rest induction => simp [Loop.renameIn, induction]

theorem Component.walkAll_eq_flatMap (components : List Component) :
    Component.walkAll components = components.flatMap Component.walk := by
  induction components with
  | nil => rfl
  | cons component rest induction => simp [Component.walkAll, induction]

theorem Loop.walkAll_eq_flatMap (loops : List Loop) :
    Loop.walkAll loops = loops.flatMap Loop.walk := by
  induction loops with
  | nil => rfl
  | cons loop rest induction => simp [Loop.walkAll, induction]

theorem Component.expressionsIn_eq_flatMap (components : List Component) :
    Component.expressionsIn components =
      components.flatMap Component.expressions := by
  induction components with
  | nil => rfl
  | cons component rest induction => simp [Component.expressionsIn, induction]

theorem Loop.expressionsIn_eq_flatMap (loops : List Loop) :
    Loop.expressionsIn loops = loops.flatMap Loop.expressions := by
  induction loops with
  | nil => rfl
  | cons loop rest induction => simp [Loop.expressionsIn, induction]

@[simp]
theorem Expr.span_rename (change : String → String) (expr : Expr) :
    (expr.rename change).span = expr.span := by
  cases expr with
  | style box properties span => cases properties <;> rfl
  | _ => rfl

theorem Expr.inGroup_rename (change : String → String) (expr : Expr) :
    (expr.rename change).inGroup = expr.inGroup.rename change := by
  cases expr with
  | style box properties span => cases properties <;> rfl
  | _ => rfl

@[simp]
theorem Expr.literalText?_rename (change : String → String) (expr : Expr) :
    (expr.rename change).literalText? = expr.literalText? := by
  cases expr with
  | style box properties span => cases properties <;> rfl
  | _ => rfl

@[simp]
theorem Expr.keyLists_inGroup (expr : Expr) :
    expr.inGroup.keyLists = expr.keyLists := by
  cases expr with
  | style box properties span => cases properties <;> rfl
  | _ => rfl

mutual

/-- Renaming renames the keys of every literal. -/
theorem Expr.keyLists_rename (change : String → String) : (expr : Expr) →
    (expr.rename change).keyLists = expr.keyLists.map (List.map change)
  | .int _ _ | .float _ _ | .bool _ _ | .text _ _ | .null _ | .reference _ => by
      simp [Expr.rename, Expr.keyLists]
  | .vec2 x y _ => by
      simp [Expr.rename, Expr.keyLists, Expr.keyLists_rename change x,
        Expr.keyLists_rename change y]
  | .color red green blue alpha _ => by
      simp [Expr.rename, Expr.keyLists, Expr.keyLists_rename change red,
        Expr.keyLists_rename change green, Expr.keyLists_rename change blue,
        Expr.keyLists_rename change alpha]
  | .object entries _ => by
      rw [Expr.rename, Expr.keyLists, Expr.keyLists,
        Expr.keyListsIn_rename change entries, Expr.renameIn_eq_map]
      simp
  | .resource path _ => by
      simp [Expr.rename, Expr.keyLists, Expr.keyLists_rename change path]
  | .style _ none _ => by simp [Expr.rename, Expr.keyLists]
  | .style _ (some properties) _ => by
      simp [Expr.rename, Expr.keyLists, Expr.keyLists_rename change properties]
  | .applyPrefix _ right _ _ => by
      simp [Expr.rename, Expr.keyLists, Expr.keyLists_rename change right]
  | .applyInfix _ left right _ _ => by
      simp [Expr.rename, Expr.keyLists, Expr.keyLists_rename change left,
        Expr.keyLists_rename change right]

theorem Expr.keyListsIn_rename (change : String → String) :
    (entries : List (String × Expr)) →
    Expr.keyListsIn (Expr.renameIn change entries) =
      (Expr.keyListsIn entries).map (List.map change)
  | [] => rfl
  | (_, value) :: rest => by
      simp [Expr.renameIn, Expr.keyListsIn, Expr.keyLists_rename change value,
        Expr.keyListsIn_rename change rest]

end

mutual

/-- A renamed tree is walked like the tree itself. -/
theorem Component.walk_rename (change : String → String) : (component : Component) →
    (component.rename change).walk = component.walk.map (Component.rename change)
  | ⟨name, aliasName, properties, signals, children, loops, span⟩ => by
      simp only [Component.rename, Component.walk,
        Component.walkAll_rename change children,
        Loop.walkAll_rename change loops, List.map_cons, List.map_append]

/-- The parts of a renamed tree are the renamed parts. -/
theorem Component.walkAll_rename (change : String → String) :
    (components : List Component) →
    Component.walkAll (Component.renameIn change components) =
      (Component.walkAll components).map (Component.rename change)
  | [] => rfl
  | component :: rest => by
      simp only [Component.renameIn, Component.walkAll,
        Component.walk_rename change component,
        Component.walkAll_rename change rest, List.map_append]

theorem Loop.walk_rename (change : String → String) : (loop : Loop) →
    (loop.rename change).walk = loop.walk.map (Component.rename change)
  | ⟨_, _, _, _, children, loops, _⟩ => by
      simp only [Loop.rename, Loop.walk, Component.walkAll_rename change children,
        Loop.walkAll_rename change loops, List.map_append]

theorem Loop.walkAll_rename (change : String → String) :
    (loops : List Loop) →
    Loop.walkAll (Loop.renameIn change loops) =
      (Loop.walkAll loops).map (Component.rename change)
  | [] => rfl
  | loop :: rest => by
      simp only [Loop.renameIn, Loop.walkAll, Loop.walk_rename change loop,
        Loop.walkAll_rename change rest, List.map_append]

end

mutual

/-- A renamed tree holds the renamed expressions. -/
theorem Component.expressions_rename (change : String → String) :
    (component : Component) →
      (component.rename change).expressions =
        component.expressions.map (Expr.rename change)
  | ⟨name, aliasName, properties, signals, children, loops, span⟩ => by
      simp only [Component.rename, Component.expressions,
        Component.expressionsIn_rename change children,
        Loop.expressionsIn_rename change loops, List.map_append, List.map_map]
      rfl

/-- The expressions in renamed components are the renamed ones. -/
theorem Component.expressionsIn_rename (change : String → String) :
    (components : List Component) →
      Component.expressionsIn (Component.renameIn change components) =
        (Component.expressionsIn components).map (Expr.rename change)
  | [] => rfl
  | component :: rest => by
      simp only [Component.renameIn, Component.expressionsIn,
        Component.expressions_rename change component,
        Component.expressionsIn_rename change rest, List.map_append]

theorem Loop.expressions_rename (change : String → String) : (loop : Loop) →
    (loop.rename change).expressions = loop.expressions.map (Expr.rename change)
  | ⟨_, _, _, _, children, loops, _⟩ => by
      simp only [Loop.rename, Loop.expressions,
        Component.expressionsIn_rename change children,
        Loop.expressionsIn_rename change loops, List.map_append, List.map_cons]

theorem Loop.expressionsIn_rename (change : String → String) : (loops : List Loop) →
    Loop.expressionsIn (Loop.renameIn change loops) =
      (Loop.expressionsIn loops).map (Expr.rename change)
  | [] => rfl
  | loop :: rest => by
      simp only [Loop.renameIn, Loop.expressionsIn,
        Loop.expressions_rename change loop,
        Loop.expressionsIn_rename change rest, List.map_append]

end

@[simp]
theorem Component.aliasName_rename (change : String → String)
    (component : Component) :
    (component.rename change).aliasName = component.aliasName := by
  cases component
  rfl

theorem Component.ownKeyLists_rename (change : String → String)
    (component : Component) :
    (component.rename change).ownKeyLists =
      component.ownKeyLists.map (List.map change) := by
  cases component
  simp only [Component.rename, Component.ownKeyLists, List.map_map,
    List.map_cons, List.map_nil]
  rfl

/-- Renaming renames the keys of every list of a component. -/
theorem Component.keyLists_rename (change : String → String)
    (component : Component) :
    (component.rename change).keyLists =
      component.keyLists.map (List.map change) := by
  simp only [Component.keyLists, Component.walk_rename,
    Component.expressions_rename, List.flatMap_map, List.map_append,
    List.map_flatMap, Component.ownKeyLists_rename, Expr.keyLists_rename]

end LiveMarkup
