import LiveMarkup.Widget.Tree
import LiveMarkup.Proofs.World.Access

/-!
# What the operations on the widget tree do

An operation on the tree changes the children of two widgets at most, and the
parent of one.  What it does is said here for every world, also for one in which
a child does not know its parent.
-/

namespace LiveMarkup

theorem Store.update_eq_self {α : Type} {store : Store α} {index : Nat}
    {change : α → α}
    (same : ∀ entry, store.get? index = some entry → change entry = entry) :
    store.update index change = store := by
  suffices entries : store.entries.modify index change = store.entries by
    rw [Store.update, entries]
  refine Array.ext_getElem? fun other => ?_
  rw [Array.getElem?_modify]
  split
  · next here =>
    subst here
    cases found : store.entries[index]? with
    | none => rfl
    | some entry => exact congrArg some (same entry found)
  · rfl

namespace World

variable {σ : Type} {world : World σ} {parent child : WidgetId}

/-- What has a child has been made. -/
theorem inside_of_child (member : child ∈ (world.widget parent).children) :
    parent.index < world.widgets.size := by
  refine Decidable.byContradiction fun outside => ?_
  rw [widget_of_not_lt outside] at member
  cases member

/-- What has a parent has been made. -/
theorem inside_of_parent (below : (world.widget child).parent = some parent) :
    child.index < world.widgets.size := by
  refine Decidable.byContradiction fun outside => ?_
  rw [widget_of_not_lt outside] at below
  cases below

theorem updateWidget_eq_self {id : WidgetId} {change : Widget → Widget}
    (same : ∀ old, world.widgets.get? id.index = some old → change old = old) :
    world.updateWidget id change = world :=
  congrArg (fun widgets => { world with widgets }) (Store.update_eq_self same)

/-! ## Taking away -/

/-- To take away what is no child changes nothing. -/
theorem removeChild_of_not_mem (stranger : child ∉ (world.widget parent).children) :
    world.removeChild parent child = world :=
  if_neg fun contains => stranger (List.contains_iff_mem.mp contains)

/-- Removing a child takes it off the list of its parent and off no other. -/
theorem children_removeChild (world : World σ) (parent child id : WidgetId) :
    ((world.removeChild parent child).widget id).children =
      if parent = id then (world.widget id).children.erase child
      else (world.widget id).children := by
  by_cases member : child ∈ (world.widget parent).children
  · rw [World.removeChild, if_pos (List.contains_iff_mem.mpr member),
      widget_project _ child id (fun old => { old with parent := none })
      Widget.children fun _ => rfl, widget_updateWidget]
    by_cases same : parent = id
    · subst same
      rw [if_pos ⟨rfl, inside_of_child member⟩, if_pos rfl]
    · rw [if_neg fun both => same both.1, if_neg same]
  · rw [removeChild_of_not_mem member]
    split
    · next same => rw [← same, List.erase_of_not_mem member]
    · rfl

theorem parent_removeChild {id : WidgetId} (other : id ≠ child) :
    ((world.removeChild parent child).widget id).parent =
      (world.widget id).parent := by
  unfold World.removeChild
  split
  · rw [widget_updateWidget, if_neg fun same => other same.1.symm]
    exact widget_project _ parent id _ Widget.parent fun _ => rfl
  · rfl

/-- A child that is taken away has no parent any more. -/
theorem parent_removeChild_self (member : child ∈ (world.widget parent).children)
    (inside : child.index < world.widgets.size) :
    ((world.removeChild parent child).widget child).parent = none := by
  have count : (world.updateWidget parent fun old =>
      { old with children := old.children.erase child }).widgets.size =
        world.widgets.size :=
    Store.size_update ..
  rw [World.removeChild, if_pos (List.contains_iff_mem.mpr member),
    widget_updateWidget, if_pos ⟨rfl, count ▸ inside⟩]

theorem connections_removeChild (world : World σ) (parent child id : WidgetId) :
    ((world.removeChild parent child).widget id).connections =
      (world.widget id).connections := by
  unfold World.removeChild
  split
  · rw [widget_project _ child id (fun old => { old with parent := none })
      Widget.connections fun _ => rfl]
    exact widget_project _ parent id _ Widget.connections fun _ => rfl
  · rfl

theorem widgetCount_removeChild (world : World σ) (parent child : WidgetId) :
    (world.removeChild parent child).widgets.size = world.widgets.size := by
  unfold World.removeChild
  split
  · exact (Store.size_update ..).trans (Store.size_update ..)
  · rfl

/-- A widget without a parent is left where it is. -/
theorem detach_of_none (free : (world.widget child).parent = none) :
    world.detach child = world := by
  rw [World.detach, free]

theorem detach_of_some (below : (world.widget child).parent = some parent) :
    world.detach child = world.removeChild parent child := by
  rw [World.detach, below]

theorem widgetCount_detach (world : World σ) (child : WidgetId) :
    (world.detach child).widgets.size = world.widgets.size := by
  unfold World.detach
  split
  · exact widgetCount_removeChild world _ child
  · rfl

/-! ## Putting below a parent -/

/-- Adding a child puts it last on the list of its parent, after it was taken
off any other. -/
theorem children_addChild (inside : parent.index < world.widgets.size)
    (id : WidgetId) :
    ((world.addChild parent child).widget id).children =
      if parent = id then ((world.detach child).widget id).children ++ [child]
      else ((world.detach child).widget id).children := by
  have before := widget_project (world.detach child) child id
    (fun old => { old with parent := some parent }) Widget.children fun _ => rfl
  have count : ((world.detach child).updateWidget child fun old =>
      { old with parent := some parent }).widgets.size = world.widgets.size :=
    (Store.size_update ..).trans (widgetCount_detach world child)
  rw [World.addChild, widget_updateWidget, count]
  by_cases same : parent = id
  · rw [if_pos ⟨same, inside⟩, if_pos same]
    exact congrArg (· ++ [child]) before
  · rw [if_neg fun both => same both.1, if_neg same]
    exact before

theorem parent_addChild (inside : child.index < world.widgets.size)
    (id : WidgetId) :
    ((world.addChild parent child).widget id).parent =
      if child = id then some parent
      else ((world.detach child).widget id).parent := by
  rw [World.addChild, widget_project _ parent id (fun old =>
    { old with children := old.children ++ [child] }) Widget.parent fun _ =>
      rfl, widget_updateWidget,
    widgetCount_detach]
  by_cases same : child = id
  · rw [if_pos ⟨same, inside⟩, if_pos same]
  · rw [if_neg fun both => same both.1, if_neg same]

theorem widgetCount_addChild (world : World σ) (parent child : WidgetId) :
    (world.addChild parent child).widgets.size = world.widgets.size :=
  (Store.size_update ..).trans
    ((Store.size_update ..).trans (widgetCount_detach world child))

/-! ## Moving -/

/-- To move what is no child changes nothing. -/
theorem moveChild_of_not_mem
    (stranger : child ∉ (world.widget parent).children) (index : Nat) :
    world.moveChild parent child index = world := by
  refine updateWidget_eq_self fun old found => if_neg fun contains => stranger ?_
  rw [World.widget, found]
  exact List.contains_iff_mem.mp contains

/-- Moving a child takes it off its place and puts it in at the index. -/
theorem children_moveChild (member : child ∈ (world.widget parent).children)
    (index : Nat) (id : WidgetId) :
    ((world.moveChild parent child index).widget id).children =
      if parent = id then
        ((world.widget parent).children.erase child).take index ++ child ::
          ((world.widget parent).children.erase child).drop index
      else (world.widget id).children := by
  rw [World.moveChild, widget_updateWidget]
  by_cases same : parent = id
  · subst same
    rw [if_pos ⟨rfl, inside_of_child member⟩, if_pos rfl,
      if_pos (List.contains_iff_mem.mpr member)]
  · rw [if_neg fun both => same both.1, if_neg same]

theorem parent_moveChild (world : World σ) (parent child : WidgetId)
    (index : Nat) (id : WidgetId) :
    ((world.moveChild parent child index).widget id).parent =
      (world.widget id).parent := by
  refine widget_project world parent id _ Widget.parent fun old => ?_
  split <;> rfl

theorem widgetCount_moveChild (world : World σ) (parent child : WidgetId)
    (index : Nat) :
    (world.moveChild parent child index).widgets.size = world.widgets.size :=
  Store.size_update ..

end World

end LiveMarkup
