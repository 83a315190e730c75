import Mathlib.Data.List.Nodup
import Mathlib.Logic.Relation
import LiveMarkup.Proofs.Trees.Operations

/-!
# Links between parents and children

A parent lists its children, and a child knows its parent.  The links agree if
each says what the other does, and if no child is listed twice.  Every operation
on the tree keeps them so, whatever it is asked to do.  Only that no widget
comes to lie below itself must be minded by whoever puts one below another.
-/

namespace LiveMarkup.World

variable {σ : Type} {world after : World σ} {parent child : WidgetId}

/-- The links between parents and children agree. -/
structure Linked (world : World σ) : Prop where
  agree : ∀ {parent child : WidgetId},
      child ∈ (world.widget parent).children ↔
        (world.widget child).parent = some parent
  once : ∀ parent : WidgetId, (world.widget parent).children.Nodup

/-- One widget is the parent of another. -/
def HasParent (world : World σ) (inner outer : WidgetId) : Prop :=
  (world.widget inner).parent = some outer

/-- A widget lies below another: it is a child of it, or of one that lies below
it. -/
def LiesBelow (world : World σ) : WidgetId → WidgetId → Prop :=
  Relation.TransGen world.HasParent

/-- A widget lies below another or is the same. -/
def Inside (world : World σ) : WidgetId → WidgetId → Prop :=
  Relation.ReflTransGen world.HasParent

/-- The widgets form a forest: the links agree, and no widget lies below itself. -/
structure Forest (world : World σ) : Prop extends Linked world where
  acyclic : ∀ id : WidgetId, ¬ world.LiesBelow id id

/-! ## Links that agree -/

/-- Links agree where all widgets have the children and the parents of a world
in which they do. -/
theorem Linked.of_tree (linked : world.Linked) (tree : ∀ id,
    (after.widget id).children = (world.widget id).children ∧
      (after.widget id).parent = (world.widget id).parent) : after.Linked where
  agree {parent child} := by
    rw [(tree parent).1, (tree child).2]
    exact linked.agree
  once parent := by
    rw [(tree parent).1]
    exact linked.once parent

/-- A new widget has neither children nor a parent, like one that there is not. -/
theorem tree_newWidget (world : World σ) (cls : WidgetClass) (id : WidgetId) :
    ((world.newWidget cls).2.widget id).children = (world.widget id).children ∧
      ((world.newWidget cls).2.widget id).parent = (world.widget id).parent := by
  rw [widget_newWidget]
  split
  · next new =>
    rw [widget_of_not_lt (new ▸ Nat.lt_irrefl _)]
    exact ⟨rfl, rfl⟩
  · exact ⟨rfl, rfl⟩

theorem Linked.newWidget (linked : world.Linked) (cls : WidgetClass) :
    (world.newWidget cls).2.Linked :=
  linked.of_tree (tree_newWidget world cls)

/-- Every child has been made. -/
theorem Linked.inside (linked : world.Linked)
    (member : child ∈ (world.widget parent).children) :
    child.index < world.widgets.size :=
  inside_of_parent (linked.agree.mp member)

/-- Every parent has been made. -/
theorem Linked.parentInside (linked : world.Linked)
    (below : world.HasParent child parent) :
    parent.index < world.widgets.size :=
  inside_of_child (linked.agree.mpr below)

/-- What is taken away has no parent, and the others have the one they had. -/
theorem Linked.parent_removeChild (linked : world.Linked)
    (parent child id : WidgetId) :
    ((world.removeChild parent child).widget id).parent =
      if id = child ∧ (world.widget child).parent = some parent then none
      else (world.widget id).parent := by
  by_cases same : id = child
  · subst same
    by_cases below : (world.widget id).parent = some parent
    · rw [if_pos ⟨rfl, below⟩]
      exact parent_removeChild_self (linked.agree.mpr below)
        (inside_of_parent below)
    · rw [if_neg fun both => below both.2,
        removeChild_of_not_mem fun member => below (linked.agree.mp member)]
  · rw [if_neg fun both => same both.1, World.parent_removeChild same]

/-- To take a child away gives no widget another parent. -/
theorem Linked.hasParent_removeChild (linked : world.Linked)
    {inner outer : WidgetId}
    (has : (world.removeChild parent child).HasParent inner outer) :
    world.HasParent inner outer := by
  rw [HasParent, linked.parent_removeChild] at has
  split at has
  · cases has
  · exact has

/-- Taking a child out keeps the links on both sides in agreement. -/
theorem Linked.removeChild (linked : world.Linked) (parent child : WidgetId) :
    (world.removeChild parent child).Linked where
  agree {outer inner} := by
    rw [children_removeChild, linked.parent_removeChild]
    by_cases taken : inner = child ∧ (world.widget child).parent = some parent
    · rw [if_pos taken]
      obtain ⟨rfl, below⟩ := taken
      refine ⟨fun member => ?_, nofun⟩
      split at member
      · next same => exact absurd member (linked.once outer).not_mem_erase
      · next apart =>
        have other := linked.agree.mp member
        exact absurd (Option.some.inj (below.symm.trans other)) apart
    · rw [if_neg taken, ← linked.agree]
      split
      · next same =>
        subst same
        refine ⟨List.mem_of_mem_erase, fun member => ?_⟩
        refine (List.mem_erase_of_ne fun here => taken ⟨here, ?_⟩).mpr member
        exact here ▸ linked.agree.mp member
      · exact .rfl
  once outer := by
    rw [children_removeChild]
    split
    · exact (linked.once outer).erase child
    · exact linked.once outer

theorem Linked.detach (linked : world.Linked) (child : WidgetId) :
    (world.detach child).Linked := by
  cases below : (world.widget child).parent with
  | none => exact (detach_of_none below).symm ▸ linked
  | some parent =>
    exact (detach_of_some below).symm ▸ linked.removeChild parent child

/-- What is detached has no parent, and the others have the one they had. -/
theorem Linked.parent_detach (linked : world.Linked) (child id : WidgetId) :
    ((world.detach child).widget id).parent =
      if id = child then none else (world.widget id).parent := by
  cases below : (world.widget child).parent with
  | none =>
    rw [detach_of_none below]
    split
    · next same => rw [same, below]
    · rfl
  | some parent =>
    rw [detach_of_some below, linked.parent_removeChild, below]
    simp only [and_true]

/-- What is put below a parent has that parent, and the others have the one they
had. -/
theorem Linked.parent_addChild (linked : world.Linked)
    (inside : child.index < world.widgets.size) (parent id : WidgetId) :
    ((world.addChild parent child).widget id).parent =
      if id = child then some parent else (world.widget id).parent := by
  rw [World.parent_addChild inside, linked.parent_detach]
  by_cases same : id = child
  · rw [if_pos same.symm, if_pos same]
  · rw [if_neg (Ne.symm same), if_neg same, if_neg same]

/-- Adding a child keeps the links on both sides in agreement, wherever it was
before. -/
theorem Linked.addChild (linked : world.Linked)
    (place : parent.index < world.widgets.size)
    (inside : child.index < world.widgets.size) :
    (world.addChild parent child).Linked := by
  have detached := linked.detach child
  have free : ((world.detach child).widget child).parent = none := by
    rw [linked.parent_detach, if_pos rfl]
  have gone : ∀ outer, child ∉ ((world.detach child).widget outer).children := by
    intro outer member
    have below := detached.agree.mp member
    rw [free] at below
    cases below
  constructor
  · intro outer inner
    rw [children_addChild place, World.parent_addChild inside]
    by_cases new : child = inner
    · subst new
      rw [if_pos rfl]
      by_cases same : parent = outer
      · subst same
        rw [if_pos rfl]
        refine ⟨fun _ => rfl, ?_⟩
        intro _
        exact List.mem_append_right _ (List.mem_singleton_self child)
      · rw [if_neg same]
        constructor
        · intro member
          exact absurd member (gone outer)
        · intro here
          exact absurd (Option.some.inj here) same
    · rw [if_neg new, ← detached.agree]
      split
      · rw [List.mem_append, List.mem_singleton]
        exact or_iff_left fun here => new here.symm
      · exact .rfl
  · intro outer
    rw [children_addChild place]
    split
    · refine List.nodup_append.mpr
        ⟨detached.once outer, List.nodup_singleton child, ?_⟩
      rintro inner member last here rfl
      exact gone outer (List.mem_singleton.mp here ▸ member)
    · exact detached.once outer

theorem moved_perm {others : List WidgetId} (index : Nat) :
    List.Perm (others.take index ++ child :: others.drop index)
      (child :: others) := by
  have parts : List.Perm (others.take index ++ child :: others.drop index)
      (child :: (others.take index ++ others.drop index)) := List.perm_middle
  rwa [List.take_append_drop] at parts

/-- Moving a child among its siblings keeps the links on both sides in
agreement. -/
theorem Linked.moveChild (linked : world.Linked) (parent child : WidgetId)
    (index : Nat) : (world.moveChild parent child index).Linked := by
  by_cases member : child ∈ (world.widget parent).children
  · have same : ∀ outer,
        List.Perm ((world.moveChild parent child index).widget outer).children
          (world.widget outer).children := by
      intro outer
      rw [children_moveChild member]
      split
      · next here =>
        subst here
        exact (moved_perm index).trans (List.perm_cons_erase member).symm
      · exact .refl _
    constructor
    · intro outer inner
      rw [(same outer).mem_iff, parent_moveChild]
      exact linked.agree
    · exact fun outer => (same outer).nodup_iff.mpr (linked.once outer)
  · rwa [moveChild_of_not_mem member]

/-! ## Where children are put -/

/-- A child that is put below its own parent comes last, and nothing else
changes. -/
theorem Linked.addChild_again (linked : world.Linked)
    (below : world.HasParent child parent) :
    (∀ id,
      ((world.addChild parent child).widget id).children =
        if id = parent then
          (world.widget parent).children.erase child ++ [child]
        else (world.widget id).children) ∧
    ∀ id,
      ((world.addChild parent child).widget id).parent =
        (world.widget id).parent := by
  constructor
  · intro id
    rw [children_addChild (linked.parentInside below), detach_of_some below,
      children_removeChild]
    by_cases same : id = parent
    · subst same
      rw [if_pos rfl, if_pos rfl, if_pos rfl]
    · rw [if_neg (Ne.symm same), if_neg (Ne.symm same), if_neg same]
  · intro id
    rw [linked.parent_addChild (inside_of_parent below)]
    split
    · next same => rw [same, below]
    · rfl

/-- A child that is moved is found at the index, or last if the index is beyond
that; the other children keep their order, and nothing else changes. -/
theorem Linked.moveChild_place (linked : world.Linked)
    (member : child ∈ (world.widget parent).children) (index : Nat) :
    ((world.moveChild parent child index).widget parent).children[min index
      ((world.widget parent).children.length - 1)]? = some child ∧
    ((world.moveChild parent child index).widget parent).children.erase child =
      (world.widget parent).children.erase child ∧
    (∀ id,
      id ≠ parent →
      ((world.moveChild parent child index).widget id).children =
        (world.widget id).children) ∧
    ∀ id,
      ((world.moveChild parent child index).widget id).parent =
        (world.widget id).parent := by
  have gone : child ∉ (world.widget parent).children.erase child :=
    (linked.once parent).not_mem_erase
  refine ⟨?_, ?_, fun id other => ?_, parent_moveChild world parent child index⟩
  · rw [children_moveChild member, if_pos rfl,
      ← List.length_erase_of_mem member, ← List.length_take,
      List.getElem?_append_right (Nat.le_refl _), Nat.sub_self,
      List.getElem?_cons_zero]
  · rw [children_moveChild member, if_pos rfl,
      List.erase_append_right _ fun before =>
        gone (List.mem_of_mem_take before), List.erase_cons_head,
        List.take_append_drop]
  · rw [children_moveChild member, if_neg (Ne.symm other)]

/-! ## Widgets below themselves -/

theorem LiesBelow.mono
    (parents :
      ∀ {inner outer},
        after.HasParent inner outer → world.HasParent inner outer)
    {inner outer : WidgetId} (below : after.LiesBelow inner outer) :
    world.LiesBelow inner outer :=
  Relation.TransGen.mono (fun _ _ => parents) _ _ below

/-- A forest remains one as long as no widget gets another parent. -/
theorem Forest.shrink (forest : world.Forest) (linked : after.Linked)
    (parents :
      ∀ {inner outer},
        after.HasParent inner outer → world.HasParent inner outer) :
    after.Forest :=
  ⟨linked, fun id below => forest.acyclic id (below.mono parents)⟩

/-- What lies below something after a widget was put below a parent did so
before, or it does by that. -/
theorem Linked.below_addChild (linked : world.Linked)
    (inside : child.index < world.widgets.size)
    (apart : ¬ world.Inside parent child) {inner outer : WidgetId}
    (below : (world.addChild parent child).LiesBelow inner outer) :
    world.LiesBelow inner outer ∨
    world.Inside inner child ∧ world.Inside parent outer := by
  have step : ∀ {inner outer}, (world.addChild parent child).HasParent inner outer →
      inner = child ∧ outer = parent ∨ world.HasParent inner outer := by
    intro inner outer has
    rw [HasParent, linked.parent_addChild inside] at has
    split at has
    · next here => exact .inl ⟨here, (Option.some.inj has).symm⟩
    · exact .inr has
  induction below with
  | single has =>
    rcases step has with ⟨rfl, rfl⟩ | before
    · exact .inr ⟨.refl, .refl⟩
    · exact .inl (.single before)
  | tail _ has hypothesis =>
    rcases step has with ⟨rfl, rfl⟩ | before
    · rcases hypothesis with below | ⟨_, inside⟩
      · exact .inr ⟨below.to_reflTransGen, .refl⟩
      · exact absurd inside apart
    · exact hypothesis.imp (·.tail before) fun both => ⟨both.1, both.2.tail before⟩

theorem Forest.addChild (forest : world.Forest)
    (place : parent.index < world.widgets.size)
    (inside : child.index < world.widgets.size)
    (apart : ¬ world.Inside parent child) :
    (world.addChild parent child).Forest := by
  refine ⟨forest.toLinked.addChild place inside, fun id below => ?_⟩
  rcases forest.toLinked.below_addChild inside apart below with before | ⟨up, down⟩
  · exact forest.acyclic id before
  · exact apart (down.trans up)

theorem Forest.of_tree (forest : world.Forest) (tree : ∀ id,
    (after.widget id).children = (world.widget id).children ∧
      (after.widget id).parent = (world.widget id).parent) : after.Forest :=
  forest.shrink (forest.toLinked.of_tree tree) fun has => (tree _).2.symm.trans has

theorem Forest.removeChild (forest : world.Forest) (parent child : WidgetId) :
    (world.removeChild parent child).Forest :=
  forest.shrink (forest.toLinked.removeChild parent child)
    forest.toLinked.hasParent_removeChild

theorem Forest.detach (forest : world.Forest) (child : WidgetId) :
    (world.detach child).Forest := by
  refine forest.shrink (forest.toLinked.detach child) fun has => ?_
  rw [HasParent, forest.toLinked.parent_detach] at has
  split at has
  · cases has
  · exact has

theorem Forest.moveChild (forest : world.Forest) (parent child : WidgetId)
    (index : Nat) : (world.moveChild parent child index).Forest :=
  forest.shrink (forest.toLinked.moveChild parent child index) fun has =>
    (parent_moveChild world parent child index _).symm.trans has

/-- Where no widget has been made, there is nothing that could disagree. -/
theorem forest_of_empty (none : world.widgets.size = 0) : world.Forest := by
  have blank : ∀ id, world.widget id = default := fun id =>
    widget_of_not_lt fun inside => Nat.not_lt_zero _ (none ▸ inside)
  refine ⟨⟨fun {parent child} => ?_, fun parent => ?_⟩, fun id below => ?_⟩
  · rw [blank, blank]
    exact ⟨nofun, nofun⟩
  · rw [blank]
    exact List.nodup_nil
  · obtain ⟨_, has, _⟩ := Relation.TransGen.head'_iff.mp below
    rw [HasParent, blank] at has
    cases has

end LiveMarkup.World
