import Mathlib.Data.List.Basic
import LiveMarkup.Proofs.Bindings.Writing

/-!
# Announcing

A change is written first and announced then.  In between, every live property
that has read what was written waits for one of the callbacks of the
announcement; when these have run, none waits any more.
-/

namespace LiveMarkup.World

variable {σ : Type} {world middle after : World σ}

/-! ## Delivering callbacks -/

/-- Whether a callback may be delivered: callbacks may nest deeply enough for
every live property to be refreshed once, and the live property refreshed last
is the cause of the change. -/
def Admits (bound : Nat) (world : World σ) (stack : List BindingId) :
    Callback → Prop
  | .property listener changed =>
    world.bindings.size < bound + stack.length ∧
    ∀ id generation property,
      listener = .binding id generation property →
      ∃ binding,
        world.binding? id = some binding ∧ generation ≤ binding.generation ∧
        (generation = binding.generation → hears property changed = true →
         ∀ top, stack.head? = some top → world.Feeds top id)
  | .event _ _ | .created _ _ | .updated _ _ | .disposed _ =>
    world.bindings.size + 1 < bound ∧ stack = []
  | .list _ _ | .dispose _ => False

/-- The live properties are settled again after a callback, and the tree is as
it was. -/
structure Served (roots : List Owned) (stack : List BindingId)
    (pending : List Callback) (world after : World σ) : Prop where
  settled : Settled none roots after stack pending
  stays : world.Stays after
  pins : after.pins = world.pins

/-- A way to deliver callbacks that leaves no live property behind. -/
def Serves (deliver : Deliver σ) (bound : Nat) : Prop :=
  ∀ roots world stack callback pending,
    Settled none roots world stack (callback :: pending) → world.Rooted roots →
      Admits bound world stack callback →
        Served roots stack pending world (deliver callback world).2

theorem Served.trans {roots : List Owned} {stack : List BindingId}
    {pending more : List Callback}
    (left : Served roots stack more world middle)
    (right : Served roots stack pending middle after) :
    Served roots stack pending world after :=
  ⟨right.settled, left.stays.trans right.stays, right.pins.trans left.pins⟩

theorem Stays.rooted (stays : world.Stays after) (pins : after.pins = world.pins)
    {roots : List Owned} (rooted : world.Rooted roots) : after.Rooted roots := by
  intro thing member
  rw [stays.held, pins]
  exact rooted thing member

/-- A callback that may be delivered may still be after changes that take no
widget from anyone. -/
theorem Admits.stays {bound : Nat} {stack : List BindingId}
    {callback : Callback} (admits : Admits bound world stack callback)
    (stays : world.Stays after) {limit : Nat} (sound : world.Sound limit) :
    Admits bound after stack callback := by
  cases callback with
  | property listener changed =>
    obtain ⟨room, caused⟩ := admits
    refine ⟨stays.bindingCount ▸ room, fun id generation property same => ?_⟩
    obtain ⟨binding, found, before, feeds⟩ := caused id generation property same
    obtain ⟨later, foundLater, continues⟩ := stays.later.bindings id binding found
    refine ⟨later, foundLater, Nat.le_trans before continues.generation, ?_⟩
    intro current heard top first
    have grown := continues.generation
    exact stays.later.feeds sound (feeds (by omega) heard top first)
  | event | created | updated | disposed =>
    exact ⟨stays.bindingCount ▸ admits.1, admits.2⟩
  | list | dispose => exact admits.elim

/-- What an admitted callback keeps in existence does not depend on the world. -/
theorem Admits.owns {bound : Nat} {stack : List BindingId} {callback : Callback}
    (admits : Admits bound world stack callback) (other : World σ) :
    callback.owns other = callback.owns world := by
  cases callback with
  | list => exact admits.elim
  | property | event | created | updated | disposed | dispose => rfl

theorem erase_pinned (things pins : List Owned) :
    things.foldl List.erase (things ++ pins) = pins := by
  induction things with
  | nil => rfl
  | cons thing rest hypothesis =>
    rw [List.cons_append, List.foldl_cons, List.erase_cons_head]
    exact hypothesis

theorem stays_sweep (wired : world.Wired) : world.Stays world.sweep :=
  Cuts.stays wired.sweeps_sweep

theorem pins_sweep (wired : world.Wired) : world.sweep.pins = world.pins := by
  rw [Cuts.rest wired.sweeps_sweep]

/-- Nothing that was pinned before is released by the end of a pinned operation. -/
theorem Served.unpin {roots : List Owned} {stack : List BindingId}
    {pending : List Callback}
    (served : Served roots stack pending world middle) (things pins : List Owned)
    (pinned : world.pins = things ++ pins) :
    Settled none roots (middle.unpin things) stack pending ∧
    world.Stays (middle.unpin things) ∧
      (middle.unpin things).pins = pins := by
  have same : SameState middle
    { middle with pins := things.foldl List.erase middle.pins } := rfl
  have settled := served.settled.sameState same
  refine ⟨settled.sweep,
    (served.stays.trans (same.stays rfl)).trans (stays_sweep settled.wired), ?_⟩
  rw [World.unpin, pins_sweep settled.wired]
  change things.foldl List.erase middle.pins = pins
  rw [served.pins, pinned, erase_pinned]

variable {deliver : Deliver σ} {bound : Nat}

/-- Callbacks that run in order settle the live properties one after the other. -/
theorem Serves.runEach (serves : Serves deliver bound)
    {roots pins : List Owned} {stack : List BindingId}
    {pending : List Callback} (callbacks : List Callback) (world : World σ)
    (settled : Settled none roots world stack (callbacks ++ pending))
    (rooted : ∀ thing ∈ roots, thing ∈ world.held ++ pins)
    (pinned : world.pins = callbacks.flatMap (·.owns world) ++ pins)
    (admits : ∀ callback ∈ callbacks, Admits bound world stack callback) :
    Settled none roots (runEach deliver callbacks world).2 stack pending ∧
    world.Stays (runEach deliver callbacks world).2 ∧
    (runEach deliver callbacks world).2.pins = pins := by
  induction callbacks generalizing world with
  | nil => exact ⟨settled, .refl world, pinned⟩
  | cons callback rest hypothesis =>
    have here := admits callback (List.mem_cons_self ..)
    have more : world.Rooted roots := by
      intro thing member
      rw [pinned]
      rcases List.mem_append.mp (rooted thing member) with held | kept
      · exact List.mem_append_left _ held
      · exact List.mem_append_right _ (List.mem_append_right _ kept)
    have served :=
      serves roots world stack callback (rest ++ pending) settled more here
    rw [List.flatMap_cons, List.append_assoc] at pinned
    obtain ⟨settledNext, stays, pins⟩ := served.unpin _ _ pinned
    obtain ⟨settledLast, staysLast, pinsLast⟩ := hypothesis
      ((deliver callback world).2.unpin (callback.owns world)) settledNext
      (by rwa [stays.held])
      (by
        rw [pins]
        congr 1
        refine List.flatMap_congr fun other member => ?_
        exact ((admits other (List.mem_cons_of_mem _ member)).owns _).symm)
      fun other member =>
        (admits other (List.mem_cons_of_mem _ member)).stays stays settled.sound
    exact ⟨settledLast, stays.trans staysLast, pinsLast⟩

/-- A row of callbacks is delivered one by one, and settled live properties are
so after each of them. -/
theorem Serves.runAll (serves : Serves deliver bound) {roots : List Owned}
    {stack : List BindingId} {pending : List Callback} {callbacks : List Callback}
    (settled : Settled none roots world stack (callbacks ++ pending))
    (rooted : world.Rooted roots)
    (admits : ∀ callback ∈ callbacks, Admits bound world stack callback) :
    Served roots stack pending world (runAll deliver callbacks world).2 := by
  have same : SameState world (world.pin (callbacks.flatMap (·.owns world))) := rfl
  have stays := same.stays rfl
  obtain ⟨settledAfter, staysAfter, pins⟩ := serves.runEach callbacks
    (world.pin (callbacks.flatMap (·.owns world))) (settled.sameState same) rooted
    (by
      change callbacks.flatMap (·.owns world) ++ world.pins = _
      congr 1)
    fun callback member => (admits callback member).stays stays settled.sound
  exact ⟨settledAfter, stays.trans staysAfter, pins⟩

/-! ## Announcing a change -/

/-- A written change that is announced settles again: whoever has read what
looks different hears of it. -/
theorem Serves.announce (serves : Serves deliver bound) {roots : List Owned}
    {stack : List BindingId} {pending : List Callback} (object : ObjectId)
    {changed : String} (settled : Settled none roots world stack pending)
    (rooted : world.Rooted roots)
    (room : world.bindings.size < bound + stack.length)
    (step : Transition none world middle) (stays : world.Stays middle)
    (pins : middle.pins = world.pins) (blocks : middle.blocks = world.blocks)
    (heard :
      ∀ slot,
        world.Has slot.1 → middle.Plain slot →
          middle.sees slot = world.sees slot ∨
          (middle.announcer slot.1 = middle.announcer object ∧
           hears slot.2 changed = true))
    (caused :
      ∀ top,
        stack.head? = some top →
        ∀ reader binding read name,
          middle.binding? reader = some binding →
          middle.announcer read = middle.announcer object →
          (read, name) ∈ binding.watched → hears name changed = true →
          middle.Feeds top reader) :
    Served roots stack pending world
      (object.notify deliver changed middle).2 := by
  have held : ∀ id, world.Held roots id → middle.Held roots id := by
    refine fun id held => held.mono (List.Subset.refl _) fun parent => ?_
    rw [stays.children]
    exact List.Subset.refl _
  have wired := step.wired settled.wired
  have listening := middle.propertyListeners_eq object
  have waiting :
      Settled none roots middle stack
        ((middle.propertyListeners object).toList.map
          (Callback.property · changed) ++ pending) := by
    refine settled.transition step held ?_ ?_
    · intro id block found
      simp only [World.block?, blocks] at found
      exact held _ (settled.heldBlocks id block found)
    · intro id old _ found covered eligible
      obtain ⟨binding, foundAfter, _, same⟩ := step.binding_after found
      have watched : binding.watched = old.watched := by
        rw [same (Option.some_ne_none _).symm]
      by_cases unseen : ∀ slot ∈ old.watched, middle.sees slot = world.sees slot
      · exact .inl unseen
      · obtain ⟨slot, member, different⟩ : ∃ slot ∈ old.watched,
            middle.sees slot ≠ world.sees slot := by
          simpa using unseen
        have plain := eligible binding foundAfter slot (watched ▸ member)
        rcases heard slot (settled.wired.watched id old found slot member).1 plain
          with equal | ⟨announced, hear⟩
        · exact absurd equal different
        · obtain ⟨number, entry⟩ :=
            covered binding foundAfter slot (watched ▸ member)
          rw [announced, ← listening] at entry
          refine .inr ⟨.property (.binding id binding.generation slot.2) changed,
            List.mem_map.mpr ⟨_, List.mem_map.mpr ⟨_, entry, rfl⟩, rfl⟩, ?_⟩
          exact ⟨binding, slot.2, changed, foundAfter, rfl, hear⟩
  refine Served.trans ⟨waiting, stays, pins⟩
    (serves.runAll waiting (stays.rooted pins rooted) fun callback member => ?_)
  obtain ⟨listener, heardBy, rfl⟩ := List.mem_map.mp member
  refine ⟨stays.bindingCount ▸ room, ?_⟩
  rintro id generation property rfl
  obtain ⟨⟨number, listener⟩, entry, same⟩ := List.mem_map.mp heardBy
  rw [listening] at entry
  cases same
  obtain ⟨binding, found, before, current⟩ :=
    wired.heard _ number id generation property entry
  refine ⟨binding, found, before, fun now hear top first => ?_⟩
  obtain ⟨read, announced, watched⟩ := current now
  exact caused top first id binding read property found announced watched hear

end LiveMarkup.World
