import LiveMarkup.Proofs.Construction.Accessing

/-!
# Trees of built widgets

A component becomes a tree of widgets: its own widget, below it those of its
children, and then those that its loops have built for the elements of their
lists.  A tree tells in which order its widgets were created, in which order
they became ready, and all calls of the widget set in between.
-/

namespace LiveMarkup

mutual

/-- A widget that was built for a component, what was accessed while its
properties were set, and what was built below it. -/
inductive WidgetTree where
  | mk (widget : WidgetId) (component : Component) (accesses : List Access)
      (below : WidgetRow)

/-- Widgets that were built below another, in the order in which they were
built.  Those that were built for an element of a list were moved to their
places. -/
inductive WidgetRow where
  | nil
  | cons (child : WidgetTree) (place : Option Nat) (rest : WidgetRow)

end

namespace WidgetTree

def widget : WidgetTree → WidgetId
  | mk widget _ _ _ => widget

end WidgetTree

/-- How a new child comes below its parent: it is put at the end, and then moved
if it has a place. -/
def attachment (parent child : WidgetId) : Option Nat → List Moment
  | none => [.call (.add parent child)]
  | some index => [.call (.add parent child), .call (.move parent child index)]

namespace Component

/-- The calls by which the signals of a component are connected to its widget. -/
def wiring (component : Component) (widget : WidgetId) : List Moment :=
  component.signals.map fun signal => .call (.connect widget signal.event)

/-- The calls of handlers when a widget of a component becomes ready: one for
each of its signals that means `ready`. -/
def readyCalls (registry : Registry) (controller : Controller)
    (component : Component) : List HostCall :=
  match registry.find component.name with
  | none => []
  | some cls =>
    if controller.scripted then
      (component.signals.filter (cls.event? ·.event == some "ready")).map
        (.handler controller ·.handler [])
    else []

end Component

mutual

/-- The widgets of a tree with their components, each before those below it. -/
def WidgetTree.preorder : WidgetTree → List (WidgetId × Component)
  | ⟨widget, component, _, below⟩ => (widget, component) :: below.preorder

def WidgetRow.preorder : WidgetRow → List (WidgetId × Component)
  | .nil => []
  | .cons child _ rest => child.preorder ++ rest.preorder

end

mutual

/-- The widgets of a tree with their components, each after those below it. -/
def WidgetTree.postorder : WidgetTree → List (WidgetId × Component)
  | ⟨widget, component, _, below⟩ => below.postorder ++ [(widget, component)]

def WidgetRow.postorder : WidgetRow → List (WidgetId × Component)
  | .nil => []
  | .cons child _ rest => child.postorder ++ rest.postorder

end

mutual

/-- The moments in which a tree is built: its widget is created, its properties
are set, everything below is built, its signals are connected, and it becomes
ready. -/
def WidgetTree.moments : WidgetTree → List Moment
  | ⟨widget, component, accesses, below⟩ =>
    .call (.create component.name) ::
      (accesses.map (.call ·.call) ++ below.moments widget ++
        component.wiring widget ++ [.ready widget])

/-- The moments in which widgets are built below a parent: each is built and
then put below the parent. -/
def WidgetRow.moments (parent : WidgetId) : WidgetRow → List Moment
  | .nil => []
  | .cons child place rest =>
    child.moments ++ attachment parent child.widget place ++
      WidgetRow.moments parent rest

end

/-- The name of the class of which a call creates a widget. -/
def ToolkitCall.created? : ToolkitCall → Option String
  | .create name => some name
  | _ => none

/-- The names of the classes of which widgets are created, in order. -/
def Moment.creations (moments : List Moment) : List String :=
  (calls moments).filterMap ToolkitCall.created?

/-! ## The order of a tree -/

namespace Moment

@[simp]
theorem creations_append (first second : List Moment) :
    creations (first ++ second) = creations first ++ creations second := by
  rw [creations, calls_append, List.filterMap_append]
  rfl

/-- Nothing is created and nothing becomes ready while properties are set. -/
theorem creations_accesses (accesses : List Access) :
    creations (accesses.map (.call ·.call)) = [] := by
  rw [creations, calls, List.filterMap_map, List.filterMap_filterMap,
    List.filterMap_eq_nil_iff]
  rintro ⟨call, accessed⟩ _
  cases call with
  | set | get | style => rfl
  | create | add | remove | move | connect => cases accessed

theorem readies_accesses (accesses : List Access) :
    readies (accesses.map (.call ·.call)) = [] := by
  rw [readies, List.filterMap_map, List.filterMap_eq_nil_iff]
  exact fun _ _ => rfl

/-- Nor while signals are connected. -/
theorem creations_wiring (component : Component) (widget : WidgetId) :
    creations (component.wiring widget) = [] := by
  rw [creations, calls, Component.wiring, List.filterMap_map,
    List.filterMap_filterMap, List.filterMap_eq_nil_iff]
  exact fun _ _ => rfl

theorem readies_wiring (component : Component) (widget : WidgetId) :
    readies (component.wiring widget) = [] := by
  rw [readies, Component.wiring, List.filterMap_map, List.filterMap_eq_nil_iff]
  exact fun _ _ => rfl

/-- Nor while a widget is put below its parent. -/
theorem creations_attachment (parent child : WidgetId) (place : Option Nat) :
    creations (attachment parent child place) = [] := by
  cases place <;> rfl

theorem readies_attachment (parent child : WidgetId) (place : Option Nat) :
    readies (attachment parent child place) = [] := by
  cases place <;> rfl

end Moment

open Moment (creations readies)

mutual

/-- Widgets are created in the preorder of their tree. -/
theorem WidgetTree.creations_moments : (tree : WidgetTree) →
    creations tree.moments = tree.preorder.map (·.2.name)
  | ⟨widget, component, accesses, below⟩ => by
    have created :
        creations (.call (.create component.name) ::
          (accesses.map (.call ·.call) ++ below.moments widget ++
            component.wiring widget ++ [.ready widget])) =
          component.name :: creations
            (accesses.map (.call ·.call) ++ below.moments widget ++
              component.wiring widget ++ [.ready widget]) :=
      rfl
    have ready : creations [.ready widget] = [] := rfl
    rw [WidgetTree.moments, created, Moment.creations_append,
      Moment.creations_append, Moment.creations_append,
      Moment.creations_accesses, Moment.creations_wiring, ready,
      below.creations_moments widget, WidgetTree.preorder]
    simp

theorem WidgetRow.creations_moments : (row : WidgetRow) → (parent : WidgetId) →
    creations (row.moments parent) = row.preorder.map (·.2.name)
  | .nil, _ => rfl
  | .cons child place rest, parent => by
    rw [WidgetRow.moments, Moment.creations_append, Moment.creations_append,
      Moment.creations_attachment, child.creations_moments,
      rest.creations_moments parent, WidgetRow.preorder]
    simp

end

mutual

/-- Widgets become ready in the postorder of their tree. -/
theorem WidgetTree.readies_moments : (tree : WidgetTree) →
    readies tree.moments = tree.postorder.map (·.1)
  | ⟨widget, component, accesses, below⟩ => by
    have created :
        readies (.call (.create component.name) ::
          (accesses.map (.call ·.call) ++ below.moments widget ++
            component.wiring widget ++ [.ready widget])) =
          readies (accesses.map (.call ·.call) ++ below.moments widget ++
            component.wiring widget ++ [.ready widget]) :=
      rfl
    have ready : readies [.ready widget] = [widget] := rfl
    rw [WidgetTree.moments, created, Moment.readies_append,
      Moment.readies_append, Moment.readies_append, Moment.readies_accesses,
      Moment.readies_wiring, ready, below.readies_moments widget,
      WidgetTree.postorder]
    simp

theorem WidgetRow.readies_moments : (row : WidgetRow) → (parent : WidgetId) →
    readies (row.moments parent) = row.postorder.map (·.1)
  | .nil, _ => rfl
  | .cons child place rest, parent => by
    rw [WidgetRow.moments, Moment.readies_append, Moment.readies_append,
      Moment.readies_attachment, child.readies_moments,
      rest.readies_moments parent, WidgetRow.postorder]
    simp

end

mutual

/-- Both orders have the same widgets. -/
theorem WidgetTree.postorder_perm :
    (tree : WidgetTree) → tree.postorder.Perm tree.preorder
  | ⟨widget, component, _, below⟩ => by
    rw [WidgetTree.postorder, WidgetTree.preorder]
    exact (below.postorder_perm.append_right _).trans List.perm_append_comm

theorem WidgetRow.postorder_perm :
    (row : WidgetRow) → row.postorder.Perm row.preorder
  | .nil => .refl _
  | .cons child _ rest => by
    rw [WidgetRow.postorder, WidgetRow.preorder]
    exact child.postorder_perm.append rest.postorder_perm

end

namespace WidgetRow

/-- Widgets that were built after others. -/
def append : WidgetRow → WidgetRow → WidgetRow
  | nil, later => later
  | cons child place rest, later => cons child place (rest.append later)

@[simp]
theorem append_nil : (row : WidgetRow) → row.append .nil = row
  | nil => rfl
  | cons child place rest => by rw [append, rest.append_nil]

variable (row later : WidgetRow)

theorem preorder_append :
    (row.append later).preorder = row.preorder ++ later.preorder := by
  fun_induction append row later with
  | case1 => rfl
  | case2 child place rest later hypothesis =>
    rw [preorder, hypothesis, preorder, List.append_assoc]

theorem postorder_append :
    (row.append later).postorder = row.postorder ++ later.postorder := by
  fun_induction append row later with
  | case1 => rfl
  | case2 child place rest later hypothesis =>
    rw [postorder, hypothesis, postorder, List.append_assoc]

theorem moments_append (parent : WidgetId) :
    (row.append later).moments parent =
      row.moments parent ++ later.moments parent := by
  fun_induction append row later with
  | case1 => rfl
  | case2 child place rest later hypothesis =>
    rw [moments, hypothesis, moments]
    simp only [List.append_assoc]

end WidgetRow

/-- Somewhere below a parent stands a tree, put below the widget above it at
some place. -/
inductive WidgetRow.Has :
    WidgetId → WidgetRow → WidgetTree → WidgetId → Option Nat → Prop where
  | here {parent : WidgetId} {tree : WidgetTree} {place : Option Nat}
      {rest : WidgetRow} :
      WidgetRow.Has parent (.cons tree place rest) tree parent place
  | later {parent above : WidgetId} {child tree : WidgetTree}
      {place other : Option Nat} {rest : WidgetRow} :
      WidgetRow.Has parent rest tree above place →
      WidgetRow.Has parent (.cons child other rest) tree above place
  | inside {parent widget above : WidgetId} {component : Component}
      {accesses : List Access} {below rest : WidgetRow} {tree : WidgetTree}
      {place other : Option Nat} : WidgetRow.Has widget below tree above place →
      WidgetRow.Has parent
        (.cons ⟨widget, component, accesses, below⟩ other rest) tree above place

/-- The moments of a tree stand together, and then it is put below the widget
above it. -/
theorem WidgetRow.Has.moments {parent above : WidgetId} {row : WidgetRow}
    {tree : WidgetTree} {place : Option Nat}
    (member : row.Has parent tree above place) :
    ∃ before later,
      row.moments parent =
        before ++ (tree.moments ++ attachment above tree.widget place) ++
          later := by
  induction member with
  | @here parent tree place rest => exact ⟨[], rest.moments parent, rfl⟩
  | @later parent above child tree place other rest member hypothesis =>
    obtain ⟨before, later, split⟩ := hypothesis
    refine ⟨child.moments ++ attachment parent child.widget other ++ before,
      later, ?_⟩
    rw [WidgetRow.moments, split]
    simp only [List.append_assoc]
  | @inside parent widget above component accesses below rest tree place other
      member hypothesis =>
    obtain ⟨before, later, split⟩ := hypothesis
    refine ⟨.call (.create component.name) ::
      (accesses.map (.call ·.call) ++ before),
      later ++ component.wiring widget ++ [.ready widget] ++
      attachment parent widget other ++ rest.moments parent, ?_⟩
    rw [WidgetRow.moments, WidgetTree.moments, split]
    simp only [List.append_assoc, List.cons_append, WidgetTree.widget]

/-- The order in which a row is built: widgets are created in preorder and
become ready in postorder, each after it is equipped, everything below it is
built and its signals are connected, and before it comes below another. -/
structure WidgetRow.Ordered (parent : WidgetId) (row : WidgetRow) : Prop where
  creations : creations (row.moments parent) = row.preorder.map (·.2.name)
  readies : readies (row.moments parent) = row.postorder.map (·.1)
  perm : row.postorder.Perm row.preorder
  each : ∀ {widget component accesses below above place},
      row.Has parent ⟨widget, component, accesses, below⟩ above place →
      ∃ before later,
        row.moments parent =
          before ++ (.call (.create component.name) ::
            (accesses.map (.call ·.call) ++ below.moments widget ++
              component.wiring widget ++ [.ready widget]) ++
            attachment above widget place) ++ later

theorem WidgetRow.ordered (parent : WidgetId) (row : WidgetRow) :
    row.Ordered parent :=
  ⟨row.creations_moments parent, row.readies_moments parent, row.postorder_perm,
    fun member => member.moments⟩

/-! ## Trees of components -/

/-- All properties of a widget were set, one after the other. -/
inductive Equips (widget : WidgetId) : List Property → List Access → Prop where
  | nil : Equips widget [] []
  | cons {property : Property} {rest : List Property} {first others : List Access} :
      Equipped widget property first → Equips widget rest others →
        Equips widget (property :: rest) (first ++ others)

/-- The variables of a template for an element. -/
def Loop.locals (loop : Loop) (index : Nat) (value : Value) :
    List (String × Value) :=
  [(loop.indexName, .int index), (loop.valueName, value)]

section Shapes

/-! The lists that loops go through are given by what the variables around a
loop and the source of its list evaluate to. -/

variable (lists : Scope → Expr → List Value → Prop)

mutual

/-- A tree was built for a component: its properties were set, below it are its
children, and then what its loops have built. -/
inductive WidgetTree.IsFor : Component → Scope → WidgetTree → Prop where
  | build {component : Component} {scope : Scope} {widget : WidgetId}
      {accesses : List Access} {children grown : WidgetRow} :
      Equips widget component.properties accesses →
      WidgetRow.IsForAll false component.children scope children →
      WidgetRow.IsForLoops component.loops scope grown →
      WidgetTree.IsFor component scope
        ⟨widget, component, accesses, children.append grown⟩

/-- Trees were built for components in order, and each was moved to a place or
none was. -/
inductive WidgetRow.IsForAll :
    Bool → List Component → Scope → WidgetRow → Prop where
  | nil {moved : Bool} {scope : Scope} : WidgetRow.IsForAll moved [] scope .nil
  | cons {moved : Bool} {component : Component} {rest : List Component}
      {scope : Scope} {child : WidgetTree} {place : Option Nat}
      {others : WidgetRow} :
      WidgetTree.IsFor component scope child → place.isSome = moved →
      WidgetRow.IsForAll moved rest scope others →
      WidgetRow.IsForAll moved (component :: rest) scope
        (.cons child place others)

/-- Loops were built in order. -/
inductive WidgetRow.IsForLoops : List Loop → Scope → WidgetRow → Prop where
  | nil {scope : Scope} : WidgetRow.IsForLoops [] scope .nil
  | cons {loop : Loop} {rest : List Loop} {scope : Scope} {values : List Value}
      {items others : WidgetRow} : lists scope loop.source values →
      WidgetRow.IsForItems loop scope 0 values items →
      WidgetRow.IsForLoops rest scope others →
      WidgetRow.IsForLoops (loop :: rest) scope (items.append others)

/-- The template of a loop was built for elements in order, which stand from an
index on in their list. -/
inductive WidgetRow.IsForItems :
    Loop → Scope → Nat → List Value → WidgetRow → Prop where
  | nil {loop : Loop} {scope : Scope} {index : Nat} :
      WidgetRow.IsForItems loop scope index [] .nil
  | cons {loop : Loop} {scope : Scope} {index : Nat} {value : Value}
      {rest : List Value} {item others : WidgetRow} :
      WidgetRow.IsForItem loop (loop.locals index value :: scope) item →
      WidgetRow.IsForItems loop scope (index + 1) rest others →
      WidgetRow.IsForItems loop scope index (value :: rest) (item.append others)

/-- The template of a loop was built: first its components, and then the loops
inside. -/
inductive WidgetRow.IsForItem : Loop → Scope → WidgetRow → Prop where
  | build {loop : Loop} {scope : Scope} {own nested : WidgetRow} :
      WidgetRow.IsForAll true loop.children scope own →
      WidgetRow.IsForLoops loop.loops scope nested →
      WidgetRow.IsForItem loop scope (own.append nested)

end

end Shapes

end LiveMarkup
