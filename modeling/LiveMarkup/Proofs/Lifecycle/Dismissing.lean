import LiveMarkup.Proofs.Lifecycle.Bystanders
import LiveMarkup.Proofs.Lifecycle.Families
import LiveMarkup.Proofs.World.Outcomes

/-!
# Taking documents down

When a document is disposed of, its controller is told first, and then those of
the documents below it, from above.  Documents that were taken down import
nothing any more, and the others are as they were.
-/

namespace LiveMarkup.World

variable {σ : Type} {world middle after : World σ} {host : Host σ}
  {deliver : Deliver σ}
  {id : HandleId} {depth : Nat} {told gone : List HandleId}

/-- The controllers of some documents have been told in order that these are
about to go; of all documents some import nothing any more, and the others what
they did. -/
structure Dismisses (world after : World σ) (told gone : List HandleId) : Prop where
  lives : after.lives = world.lives ++ told.map .disposed
  imports : ∀ id,
      (after.handle id).imports =
        if id ∈ gone then [] else (world.handle id).imports
  handleCount : world.handles.size ≤ after.handles.size

theorem Steady.dismisses (steady : world.Steady after) :
    Dismisses world after [] [] := by
  refine ⟨steady.lives.trans (List.append_nil _).symm, ?_, steady.handleCount⟩
  intro id
  exact (steady.imports id).trans (if_neg List.not_mem_nil).symm

/-- Dismissals in a row tell of the documents in a row. -/
theorem Dismisses.trans {toldLater goneLater : List HandleId}
    (left : Dismisses world middle told gone)
    (right : Dismisses middle after toldLater goneLater) :
    Dismisses world after (told ++ toldLater) (gone ++ goneLater) where
  lives := by rw [right.lives, left.lives, List.map_append, List.append_assoc]
  imports id := by
    rw [right.imports, left.imports]
    by_cases later : id ∈ goneLater
    · rw [if_pos later, if_pos (List.mem_append_right _ later)]
    · rw [if_neg later]
      by_cases first : id ∈ gone
      · rw [if_pos first, if_pos (List.mem_append_left _ first)]
      · rw [if_neg first, if_neg fun member =>
          (List.mem_append.mp member).elim first later]
  handleCount := Nat.le_trans left.handleCount right.handleCount

theorem Dismisses.steady (dismisses : Dismisses world middle told gone)
    (steady : middle.Steady after) : Dismisses world after told gone := by
  have both := dismisses.trans steady.dismisses
  rwa [List.append_nil, List.append_nil] at both

theorem Steady.andDismisses (steady : world.Steady middle)
    (dismisses : Dismisses middle after told gone) :
    Dismisses world after told gone :=
  steady.dismisses.trans dismisses

/-- A document that is not gone imports what it did. -/
theorem Dismisses.importsOf (dismisses : Dismisses world after told gone)
    (stays : id ∉ gone) : after.importsOf id = world.importsOf id := by
  rw [World.importsOf, World.importsOf, dismisses.imports, if_neg stays]

/-- What is pinned for a while changes nothing about documents. -/
theorem steady_pin (world : World σ) (things : List Owned) :
    world.Steady (world.pin things) :=
  AllowsKeeping.pins world _

theorem steady_release (world : World σ) (pins : List Owned) :
    world.Steady (world.release pins) :=
  Chains.trans (AllowsKeeping.pins world pins)
    (AllowsSlight.slight (slight_sweep _))

/-- A way to dispose of a document with everything below it, if imports nest
only so deeply. -/
def Dismissing (deliver : Deliver σ) (depth : Nat) (child : HandleId) : Prop :=
  ∀ world, Nests world depth child → (world.downward depth child).Nodup →
    Dismisses world (deliver (.dispose child) world).2 (world.downward depth child)
      (world.downward depth child)

/-- Documents are disposed of one after the other. -/
theorem dismisses_forM (children : List HandleId)
    (dismissing : ∀ child ∈ children, Dismissing deliver depth child)
    (world : World σ) (nests : ∀ child ∈ children, Nests world depth child)
    (distinct : (children.flatMap (world.downward depth)).Nodup) :
    Dismisses world ((children.forM fun child => deliver (.dispose child) :
      Action σ Unit) world).2 (children.flatMap (world.downward depth))
      (children.flatMap (world.downward depth)) := by
  induction children generalizing world with
  | nil => exact Steady.dismisses (Chains.refl world)
  | cons child rest hypothesis =>
    obtain ⟨own, others, apart⟩ := List.nodup_append.mp distinct
    have first :=
      dismissing child List.mem_cons_self world
        (nests child List.mem_cons_self) own
    have same : ∀ other ∈ rest, ∀ below ∈ world.downward depth other,
        (deliver (.dispose child) world).2.importsOf below =
          world.importsOf below :=
      fun other member below inside => first.importsOf fun gone =>
        apart below gone below (List.mem_flatMap.mpr ⟨other, member, inside⟩) rfl
    have lists : rest.flatMap ((deliver (.dispose child) world).2.downward depth) =
        rest.flatMap (world.downward depth) :=
      List.flatMap_congr fun other member => downward_congr (same other member)
    have later :=
      hypothesis (fun other member =>
        dismissing other (List.mem_cons_of_mem _ member))
        (deliver (.dispose child) world).2
        (fun other member => (nests other (List.mem_cons_of_mem _ member)).congr
          (same other member)) (lists ▸ others)
    rw [lists] at later
    exact first.trans later

/-- A document that forgets its imports dismisses nobody, but it is gone. -/
theorem dismisses_updateHandle (world : World σ) (id : HandleId) :
    Dismisses world (world.updateHandle id ({ · with imports := [] })) [] [id] where
  lives := (List.append_nil _).symm
  imports other := by
    by_cases own : id = other
    · rw [if_pos (List.mem_singleton.mpr own.symm), ← own]
      exact imports_forgotten world id
    · rw [handle_updateHandle, if_neg fun both => own both.1,
        if_neg fun member => own (List.mem_singleton.mp member).symm]
  handleCount := Nat.le_of_eq (Store.size_update ..).symm

/-- A document gives up its root. -/
theorem steady_giveUpRoot (id : HandleId) :
    Action.Within Steady (giveUpRoot id : Action σ Unit) := by
  refine .bind .get fun world => ?_
  split
  · exact .pure _
  · refine within_keeping
      (.bind (.modify fun world =>
        AllowsSlight.slight (world.slight_updateHandle id fun _ => rfl))
        fun _ => .bind .get fun world => ?_)
    split
    · exact .modify fun world => AllowsMinor.minor (world.minor_removeChild _ _)
    · exact .pure _

/-- The documents below a document go with it. -/
theorem dismisses_teardown
    (dismissing : ∀ child ∈ world.importsOf id, Dismissing deliver depth child)
    (nests : ∀ child ∈ world.importsOf id, Nests world depth child)
    (distinct : (id :: world.belowDownward depth id).Nodup) :
    Dismisses world (id.teardown deliver world).2 (world.belowDownward depth id)
      (id :: world.belowDownward depth id) := by
  obtain ⟨apart, distinct⟩ := List.nodup_cons.mp distinct
  rw [teardown_apply, keeping_apply]
  have forgets := (dismisses_updateHandle world id).steady
    (steady_pin _ ((world.importsOf id).map .handle))
  change Dismisses world
    ((giveUpRoot id : Action σ Unit)
      (((((world.importsOf id).forM fun child => deliver (.dispose child) :
        Action σ Unit) ((world.updateHandle id ({ · with imports := [] })).pin
          ((world.importsOf id).map .handle))).2.release
        world.pins).cancelHandle id).sweep).2 _ _
  generalize (world.updateHandle id ({ · with imports := [] })).pin
    ((world.importsOf id).map .handle) = lost at forgets ⊢
  have same : ∀ child ∈ world.importsOf id, ∀ below ∈ world.downward depth child,
      lost.importsOf below = world.importsOf below := by
    intro child member below inside
    refine forgets.importsOf fun gone => apart ?_
    rw [List.mem_singleton.mp gone] at inside
    exact List.mem_flatMap.mpr ⟨child, member, inside⟩
  have lists : (world.importsOf id).flatMap (lost.downward depth) =
        world.belowDownward depth id :=
    List.flatMap_congr fun child member => downward_congr (same child member)
  have goes :=
    dismisses_forM (world.importsOf id) dismissing lost
      (fun child member => (nests child member).congr (same child member))
      (lists ▸ distinct)
  rw [lists] at goes
  have closed := (forgets.trans goes).steady (steady_release _ world.pins)
  have cancels := closed.steady
    (AllowsSlight.slight ((slight_cancelHandle _ id).trans (slight_sweep _)))
  exact cancels.steady (steady_giveUpRoot id _)

/-- A document is disposed of: its controller is told, and then those of the
documents below it. -/
theorem dismisses_dispose (delivers : Deliver.Within Steady deliver)
    (dismissing : ∀ child ∈ world.importsOf id, Dismissing deliver depth child)
    (nests : ∀ child ∈ world.importsOf id, Nests world depth child)
    (distinct : (id :: world.belowDownward depth id).Nodup) :
    Dismisses world (id.dispose deliver world).2
      (id :: world.belowDownward depth id)
      (id :: world.belowDownward depth id) := by
  have noted :
      Dismisses world ((world.pin [.handle id]).noteLife (.disposed id)) [id]
        [] :=
    ⟨rfl, fun _ => (if_neg List.not_mem_nil).symm, Nat.le_refl _⟩
  have tells := noted.steady
    (delivers (.disposed (world.handle id).controller) not_false _)
  rw [dispose_apply]
  generalize (deliver (.disposed (world.handle id).controller)
    ((world.pin [.handle id]).noteLife (.disposed id))).2 = later at tells ⊢
  have same : ∀ other, later.importsOf other = world.importsOf other :=
    fun other => tells.importsOf List.not_mem_nil
  have lists : later.belowDownward depth id = world.belowDownward depth id :=
    (below_congr _ (same id) fun other _ => same other).1
  have goes :=
    dismisses_teardown (fun child member => dismissing child (same id ▸ member))
      (fun child member => (nests child (same id ▸ member)).congr fun other _ =>
        same other) (lists.symm ▸ distinct)
  rw [lists] at goes
  have ended := (tells.trans goes).steady (steady_release _ world.pins)
  rwa [List.singleton_append, List.nil_append] at ended

theorem deliver_dispose (host : Host σ) (depth : Nat) (child : HandleId) :
    host.deliver (depth + 1) (.dispose child) =
      child.dispose (host.deliver depth) :=
  rfl

/-- A document is disposed of with everything below it, if callbacks may nest
more deeply than its imports do. -/
theorem dispose_downward (bystander : host.Bystander) {nesting : Nat}
    (room : depth < nesting) (nests : Nests world depth id)
    (distinct : (world.downward depth id).Nodup) :
    Dismisses world (id.dispose (host.deliver nesting) world).2
      (world.downward depth id) (world.downward depth id) := by
  induction depth generalizing world id nesting with
  | zero =>
    have disposed := @dismisses_dispose _ world (host.deliver nesting) id 0
      (bystander.delivers nesting)
      (by rw [nests.importsOf_zero]; nofun) (by rw [nests.importsOf_zero]; nofun)
    rw [belowDownward, nests.importsOf_zero, List.flatMap_nil] at disposed
    exact disposed distinct
  | succ depth hypothesis =>
    have dismissing : ∀ child ∈ world.importsOf id,
        Dismissing (host.deliver nesting) depth child := by
      intro child _ world nests distinct
      obtain ⟨nesting, rfl⟩ :=
        Nat.exists_eq_add_one_of_ne_zero (Nat.ne_zero_of_lt room)
      rw [deliver_dispose]
      exact hypothesis (Nat.lt_of_succ_lt_succ room) nests distinct
    exact dismisses_dispose (bystander.delivers nesting) dismissing
      (fun _ => nests.child) distinct

end LiveMarkup.World
