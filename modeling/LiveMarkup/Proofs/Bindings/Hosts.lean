import Mathlib.Data.List.Nodup
import Mathlib.Data.List.Perm.Subperm
import LiveMarkup.Proofs.World.Growth
import LiveMarkup.Proofs.Bindings.Refreshing

/-!
# Hosts that only set properties

A host whose handlers do nothing but make bags and put values into bags, and
whose listeners keep to the host's own state, leaves no live property behind.
-/

namespace LiveMarkup

variable {σ : Type}

namespace World

variable {world after : World σ} {deliver : Deliver σ} {bound : Nat}
  {roots : List Owned}
  {stack : List BindingId} {pending : List Callback}

/-- The host has made a bag or a list, which nobody can have read before. -/
theorem Settled.made (settled : Settled none roots world stack pending)
    (furnishes : Furnishes world after) (handles : after.handles = world.handles)
    (held : after.held = world.held) (widgets : after.widgets = world.widgets)
    (pins : after.pins = world.pins) : Served roots stack pending world after where
  settled := settled.furnishes furnishes
  stays := {
    later := furnishes.later
    handles
    held
    widgetCount := congrArg Store.size widgets
    bindingCount := congrArg Store.size furnishes.bindings
    children := fun id => by simp only [World.widget, widgets]
    parent := fun id => by simp only [World.widget, widgets] }
  pins

/-- After a handler has run, all live properties are settled. -/
theorem Serves.sets (serves : Serves deliver bound)
    (settled : Settled none roots world [] pending)
    (rooted : world.Rooted roots) (room : world.bindings.size < bound)
    (sets : world.Sets deliver after) :
    Served roots [] pending world after := by
  induction sets with
  | done => exact settled.refl
  | @host middle state _ hypothesis =>
    have same : SameState middle { middle with host := state } := rfl
    exact hypothesis.trans ⟨hypothesis.settled.sameState same, same.stays rfl, rfl⟩
  | newBag typeName _ known hypothesis =>
    exact hypothesis.trans
      (hypothesis.settled.made
        (furnishes_newBag _ typeName (known hypothesis.settled.sound)) rfl
        rfl rfl rfl)
  | newList _ known hypothesis =>
    exact hypothesis.trans (hypothesis.settled.made 
      (furnishes_newList _ (known hypothesis.settled.sound)) rfl rfl rfl rfl)
  | set bag name _ known hypothesis =>
    refine hypothesis.trans
      (serves.set hypothesis.settled
        (hypothesis.stays.rooted hypothesis.pins rooted) ?_ bag name
        (known hypothesis.settled.sound))
    rw [hypothesis.stays.bindingCount]
    exact room

/-- As many live properties are being refreshed as there are at most. -/
theorem Settled.length_le (settled : Settled none roots world stack pending) :
    stack.length ≤ world.bindings.size := by
  have distinct : (stack.map BindingId.index).Nodup := by
    refine settled.distinct.map fun left right same => ?_
    cases left
    cases right
    exact congrArg BindingId.mk same
  have inside : stack.map BindingId.index ⊆ List.range world.bindings.size := by
    intro index member
    obtain ⟨id, refreshed, rfl⟩ := List.mem_map.mp member
    obtain ⟨binding, found, _⟩ := (settled.busy id).mp refreshed
    exact List.mem_range.mpr (Store.lt_size_of_get? found)
  have shorter := (List.subperm_of_subset distinct inside).length_le
  simpa using shorter

/-- A listener of a live property refreshes it, if it is of the current
generation and hears of the change. -/
theorem run_binding (host : Host σ) (id : BindingId) (generation : Nat)
    (property changed : String) (world : World σ) :
    host.run deliver (.property (.binding id generation property) changed)
      world =
      if hears property changed &&
           (world.binding? id).any (·.generation == generation) then
        id.refresh deliver world
      else ((), world) := by
  rw [Host.run, Action.bind_apply, Action.get_apply]
  split <;> rfl

/-- A live property that is being refreshed is not refreshed again. -/
theorem Settled.refresh_busy {left : Option BindingId} {id : BindingId}
    (settled : Settled left roots world stack pending) (rooted : world.Rooted roots)
    (member : id ∈ stack) : (id.refresh deliver world).2 = world := by
  obtain ⟨binding, found, busy⟩ := (settled.busy id).mp member
  have existing := (settled.held id binding found).existingWidget? rooted
  unfold BindingId.refresh
  rw [Action.bind_apply, Action.get_apply]
  simp only [found, existing, busy, if_true]
  rfl

/-- A callback of a live property refreshes it, unless it has been evaluated
since or does not hear of the change. -/
theorem Serves.run_binding (serves : Serves deliver bound) (host : Host σ)
    {id : BindingId} {generation : Nat} {property changed : String}
    (settled :
      Settled none roots world stack
        (.property (.binding id generation property) changed :: pending))
    (rooted : world.Rooted roots)
    (admits :
      Admits (bound + 1) world stack
        (.property (.binding id generation property) changed)) :
    Served roots stack pending world
      (host.run deliver (.property (.binding id generation property) changed)
        world).2 := by
  obtain ⟨room, caused⟩ := admits
  obtain ⟨binding, found, before, feeds⟩ := caused id generation property rfl
  have concerns : ∀ other,
      world.Pending other
        (.property (.binding id generation property) changed) →
        other = id ∧ generation = binding.generation ∧
        hears property changed = true := by
    rintro other ⟨reading, read, announced, foundReading, same, heard⟩
    cases same
    cases found.symm.trans foundReading
    exact ⟨rfl, rfl, heard⟩
  rw [World.run_binding, found, Option.any_some]
  by_cases awaited : generation = binding.generation ∧ hears property changed = true
  · obtain ⟨rfl, heard⟩ := awaited
    rw [heard, beq_self_eq_true, Bool.and_self, if_pos rfl]
    by_cases free : id ∈ stack
    · -- it is being refreshed already, by what it reads itself
      have circular : world.Circular id := by
        cases shown : stack with
        | nil =>
          rw [shown] at free
          cases free
        | cons top rest =>
          have first : stack.head? = some top := by rw [shown]; rfl
          exact Relation.TransGen.tail' (settled.chain id free top first)
            (feeds rfl heard top first)
      have dropped :=
        settled.drop fun other waits => (concerns other waits).1 ▸ circular
      rw [settled.refresh_busy rooted free]
      exact dropped.refl
    · exact serves.refresh
        (settled.leave fun other waits => (concerns other waits).1) rooted found
        free (settled.resolved id binding nofun found) (feeds rfl heard) room
  · have outdated :
        (hears property changed && binding.generation == generation) =
          false := by
      refine Bool.eq_false_iff.mpr fun both => awaited ?_
      have parts := Bool.and_eq_true_iff.mp both
      exact ⟨(beq_iff_eq.mp parts.2).symm, parts.1⟩
    rw [outdated, if_neg Bool.false_ne_true]
    exact (settled.drop fun other waits =>
      absurd (concerns other waits).2 awaited).refl

/-- No live property waits for a callback to the host. -/
theorem Settled.passed {callback : Callback}
    (settled : Settled none roots world stack (callback :: pending))
    (other : ∀ id generation property changed,
      callback ≠ .property (.binding id generation property) changed) :
    Settled none roots world stack pending :=
  settled.drop fun id ⟨_, _, _, _, same, _⟩ => absurd same (other id _ _ _)

/-- A callback to a handler of the host leaves no live property behind. -/
theorem Serves.respond (serves : Serves deliver bound) {host : Host σ}
    (tame : host.Tame) (settled : Settled none roots world [] pending)
    (rooted : world.Rooted roots) (room : world.bindings.size + 1 < bound + 1)
    {call : HostCall} (handler : ¬ call.IsChange) :
    Served roots [] pending world (host.respond deliver call world).2 :=
  serves.sets settled rooted (by omega) (tame.handles deliver call world handler)

/-- Callbacks may nest as deeply as there are live properties. -/
theorem serves_deliver {host : Host σ} (tame : host.Tame) (depth : Nat) :
    Serves (host.deliver depth) depth := by
  induction depth with
  | zero =>
    intro roots world stack callback pending settled _ admits
    cases callback with
    | property listener changed =>
      have room := admits.1
      have few := settled.length_le
      omega
    | event | created | updated | disposed =>
      exact absurd admits.1 (Nat.not_lt_zero _)
    | list | dispose => exact admits.elim
  | succ depth serves =>
    intro roots world stack callback pending settled rooted admits
    change Served roots stack pending world
      (host.run (host.deliver depth) callback world).2
    cases callback with
    | property listener changed =>
      cases listener with
      | binding id generation property =>
        exact serves.run_binding host settled rooted admits
      | host number =>
        have dropped := settled.passed nofun
        obtain ⟨state, same⟩ :=
          tame.listens (host.deliver depth) (.property number changed)
            world trivial
        change Served roots stack pending world
          (host.respond (host.deliver depth) (.property number changed) world).2
        rw [same]
        have kept : SameState world { world with host := state } := rfl
        exact ⟨dropped.sameState kept, kept.stays rfl, rfl⟩
    | event handler arguments =>
      obtain ⟨room, rfl⟩ := admits
      have dropped := settled.passed nofun
      cases handler with
      | controller controller name =>
        rw [Host.run]
        split
        · exact serves.respond tame dropped rooted room id
        · exact dropped.refl
      | host number => exact serves.respond tame dropped rooted room id
    | created controller handle =>
      obtain ⟨room, rfl⟩ := admits
      have dropped := settled.passed nofun
      rw [Host.run]
      split
      · exact serves.respond tame dropped rooted room id
      · exact dropped.refl
    | updated controller delta =>
      obtain ⟨room, rfl⟩ := admits
      have dropped := settled.passed nofun
      rw [Host.run]
      split
      · exact serves.respond tame dropped rooted room id
      · exact dropped.refl
    | disposed controller =>
      obtain ⟨room, rfl⟩ := admits
      have dropped := settled.passed nofun
      rw [Host.run]
      split
      · exact serves.respond tame dropped rooted room id
      · exact dropped.refl
    | list | dispose => exact admits.elim

end World

end LiveMarkup
