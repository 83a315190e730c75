import Mathlib.Data.List.Flatten
import Mathlib.Data.List.Perm.Basic
import LiveMarkup.Proofs.World.Documents

/-!
# A document and what it imports

The documents below a document can be listed from above, each before
its imports, which is the order in which they are taken down, or from below, each
after its imports, which is the order in which they get into place.  Both lists
name the same documents.
-/

namespace LiveMarkup.World

variable {σ : Type} {world after : World σ} {id : HandleId} {depth : Nat}

/-- The documents that a document imports, in order. -/
def importsOf (world : World σ) (id : HandleId) : List HandleId :=
  (world.handle id).imports.map Prod.snd

/-- A document and everything below it, each document before its imports.
Imports are followed for `depth` steps. -/
def downward (world : World σ) : Nat → HandleId → List HandleId
  | 0, id => [id]
  | depth + 1, id => id :: (world.importsOf id).flatMap (world.downward depth)

/-- A document and everything below it, each document after its imports. -/
def upward (world : World σ) : Nat → HandleId → List HandleId
  | 0, id => [id]
  | depth + 1, id => (world.importsOf id).flatMap (world.upward depth) ++ [id]

theorem mem_downward_self (world : World σ) (depth : Nat) (id : HandleId) :
    id ∈ world.downward depth id := by
  cases depth <;> exact List.mem_cons_self

/-- Upward and downward are two orders of the same documents. -/
theorem upward_perm (world : World σ) (depth : Nat) (id : HandleId) :
    (world.upward depth id).Perm (world.downward depth id) := by
  induction depth generalizing id with
  | zero => exact .refl _
  | succ depth hypothesis =>
    exact List.perm_append_comm.trans
      (.cons id (List.Perm.flatMap_left _ fun child _ => hypothesis child))

/-- The documents below a document are listed as before, if those among
them import the same as before. -/
theorem downward_congr
    (same :
      ∀ other ∈ world.downward depth id,
        after.importsOf other = world.importsOf other) :
    after.downward depth id = world.downward depth id := by
  induction depth generalizing id with
  | zero => rfl
  | succ depth hypothesis =>
    rw [downward, downward, same id List.mem_cons_self]
    congr 1
    refine List.flatMap_congr fun child member => hypothesis fun other below =>
      same other ?_
    exact List.mem_cons_of_mem _ (List.mem_flatMap.mpr ⟨child, member, below⟩)

/-- The documents below a document are listed from below as before, if all of
them import the same. -/
theorem upward_congr
    (same :
      ∀ other ∈ world.downward depth id,
        after.importsOf other = world.importsOf other) :
    after.upward depth id = world.upward depth id := by
  induction depth generalizing id with
  | zero => rfl
  | succ depth hypothesis =>
    rw [upward, upward, same id List.mem_cons_self]
    congr 1
    refine List.flatMap_congr fun child member => hypothesis fun other below =>
      same other ?_
    exact List.mem_cons_of_mem _ (List.mem_flatMap.mpr ⟨child, member, below⟩)

theorem Nests.child (nests : Nests world (depth + 1) id) {child : HandleId}
    (member : child ∈ world.importsOf id) : Nests world depth child := by
  obtain ⟨entry, listed, rfl⟩ := List.mem_map.mp member
  exact nests entry listed

theorem Nests.of_children
    (nests : ∀ child ∈ world.importsOf id, Nests world depth child) :
    Nests world (depth + 1) id :=
  fun _ member => nests _ (List.mem_map_of_mem member)

theorem Nests.importsOf_zero (nests : Nests world 0 id) :
    world.importsOf id = [] := by
  rw [importsOf, show (world.handle id).imports = [] from nests]
  rfl

/-- Documents nest as deeply as before, if those below import the same as before. -/
theorem Nests.congr (nests : Nests world depth id)
    (same :
      ∀ other ∈ world.downward depth id,
        after.importsOf other = world.importsOf other) :
    Nests after depth id := by
  induction depth generalizing id with
  | zero =>
    have none := (same id List.mem_cons_self).trans nests.importsOf_zero
    exact List.map_eq_nil_iff.mp none
  | succ depth hypothesis =>
    refine .of_children fun child member => ?_
    rw [same id List.mem_cons_self] at member
    refine hypothesis (nests.child member) ?_
    intro other below
    exact same other (List.mem_cons_of_mem _
      (List.mem_flatMap.mpr ⟨child, member, below⟩))

/-- Where imports do not nest more deeply, following them further finds nothing
more. -/
theorem Nests.downward_eq {deeper : Nat} (nests : Nests world depth id)
    (more : depth ≤ deeper) :
    world.downward deeper id = world.downward depth id := by
  induction depth generalizing id deeper with
  | zero =>
    cases deeper with
    | zero => rfl
    | succ deeper => rw [downward, downward, nests.importsOf_zero, List.flatMap_nil]
  | succ depth hypothesis =>
    obtain ⟨deeper, rfl⟩ := Nat.exists_eq_add_of_lt more
    rw [show depth + deeper + 1 = (depth + deeper) + 1 from rfl, downward, downward]
    congr 1
    exact List.flatMap_congr fun child member =>
      hypothesis (nests.child member) (Nat.le_add_right _ _)

/-- The list from below grows no further once it reaches deep enough. -/
theorem Nests.upward_eq {deeper : Nat} (nests : Nests world depth id)
    (more : depth ≤ deeper) :
    world.upward deeper id = world.upward depth id := by
  induction depth generalizing id deeper with
  | zero =>
    cases deeper with
    | zero => rfl
    | succ deeper =>
      rw [upward, upward, nests.importsOf_zero, List.flatMap_nil, List.nil_append]
  | succ depth hypothesis =>
    obtain ⟨deeper, rfl⟩ := Nat.exists_eq_add_of_lt more
    rw [show depth + deeper + 1 = (depth + deeper) + 1 from rfl, upward, upward]
    congr 1
    exact List.flatMap_congr fun child member =>
      hypothesis (nests.child member) (Nat.le_add_right _ _)

/-! ## What is below a document -/

/-- What is below a document, each before its imports. -/
def belowDownward (world : World σ) (depth : Nat) (id : HandleId) : List HandleId :=
  (world.importsOf id).flatMap (world.downward depth)

/-- What is below a document, each after its imports. -/
def belowUpward (world : World σ) (depth : Nat) (id : HandleId) : List HandleId :=
  (world.importsOf id).flatMap (world.upward depth)

theorem belowUpward_perm (world : World σ) (depth : Nat) (id : HandleId) :
    (world.belowUpward depth id).Perm (world.belowDownward depth id) :=
  List.Perm.flatMap_left _ fun child _ => world.upward_perm depth child

theorem downward_succ (world : World σ) (depth : Nat) (id : HandleId) :
    world.downward (depth + 1) id = id :: world.belowDownward depth id :=
  rfl

theorem upward_succ (world : World σ) (depth : Nat) (id : HandleId) :
    world.upward (depth + 1) id = world.belowUpward depth id ++ [id] :=
  rfl

/-- What is below a document is listed as before, if the document imports the
same as before and so do all below. -/
theorem below_congr (depth : Nat)
    (own : after.importsOf id = world.importsOf id)
    (same :
      ∀ other ∈ world.belowDownward depth id,
        after.importsOf other = world.importsOf other) :
    after.belowDownward depth id = world.belowDownward depth id ∧
    after.belowUpward depth id = world.belowUpward depth id := by
  have each : ∀ child ∈ world.importsOf id, ∀ other ∈ world.downward depth child,
      after.importsOf other = world.importsOf other :=
    fun child member other below =>
      same other (List.mem_flatMap.mpr ⟨child, member, below⟩)
  simp only [belowDownward, belowUpward, own]
  constructor
  · exact List.flatMap_congr fun child member =>
      downward_congr (each child member)
  · exact List.flatMap_congr fun child member =>
      upward_congr (each child member)

/-! ## Importers and their imports -/

theorem sublist_flatMap {α β : Type} {items : List α} {item : α}
    (member : item ∈ items) (parts : α → List β) :
    (parts item).Sublist (items.flatMap parts) := by
  have single := (List.singleton_sublist.mpr member).flatMap parts
  rwa [List.flatMap_singleton] at single

/-- From above, an importer comes before what it imports. -/
theorem Nests.importer_first (nests : Nests world depth id)
    {importer child : HandleId} (member : importer ∈ world.downward depth id)
    (imported : child ∈ world.importsOf importer) :
    [importer, child].Sublist (world.downward depth id) := by
  induction depth generalizing id with
  | zero =>
    rw [List.mem_singleton.mp member, nests.importsOf_zero] at imported
    cases imported
  | succ depth hypothesis =>
    rcases List.mem_cons.mp member with rfl | below
    · refine .cons_cons _
        (List.singleton_sublist.mpr
          (List.mem_flatMap.mpr ⟨child, imported, ?_⟩))
      exact world.mem_downward_self depth child
    · obtain ⟨between, listed, below⟩ := List.mem_flatMap.mp below
      exact ((hypothesis (nests.child listed) below).trans
        (sublist_flatMap listed _)).cons _

/-- From below, an importer comes after what it imports. -/
theorem Nests.importer_last (nests : Nests world depth id)
    {importer child : HandleId} (member : importer ∈ world.upward depth id)
    (imported : child ∈ world.importsOf importer) :
    [child, importer].Sublist (world.upward depth id) := by
  induction depth generalizing id with
  | zero =>
    rw [List.mem_singleton.mp member, nests.importsOf_zero] at imported
    cases imported
  | succ depth hypothesis =>
    rcases List.mem_append.mp member with below | here
    · obtain ⟨between, listed, below⟩ := List.mem_flatMap.mp below
      exact ((hypothesis (nests.child listed) below).trans
        (sublist_flatMap listed _)).trans (List.sublist_append_left _ _)
    · rw [List.mem_singleton.mp here] at imported ⊢
      have own :=
        (world.upward_perm depth child).mem_iff.mpr
          (world.mem_downward_self depth child)
      have above : [child].Sublist (world.belowUpward depth id) :=
        List.singleton_sublist.mpr (List.mem_flatMap.mpr ⟨child, imported, own⟩)
      exact above.append (.refl [id])

end LiveMarkup.World
