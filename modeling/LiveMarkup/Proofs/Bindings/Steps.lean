import LiveMarkup.Proofs.Bindings.Invariant

/-!
# Steps that keep live properties settled

A change that leaves the records of live properties alone keeps them settled, if
every live property that has read something which now looks different is sure to
hear of it.
-/

namespace LiveMarkup.World

variable {σ : Type} {world middle after : World σ}

/-- A step on which live properties neither evaluate nor begin or end to be
refreshed, except that one of them may evaluate. -/
structure Transition (left : Option BindingId) (world after : World σ) : Prop where
  later : world.Later after
  sound : world.Sound world.loaded → after.Sound after.loaded
  wired : world.Wired → after.Wired
  bindings : ∀ id binding,
      after.binding? id = some binding →
      ∃ old,
        world.binding? id = some old ∧ old.Continues binding ∧
        binding.busy = old.busy ∧
        (left ≠ some id →
         binding = { old with subscriptions := binding.subscriptions })
  recorded : ∀ id, after.Recorded id → world.Recorded id
  covered : world.Wired →
      ∀ id,
        left ≠ some id → after.Recorded id → world.Covered id → after.Covered id
  plain : ∀ slot, world.Has slot.1 → after.Plain slot → world.Plain slot

theorem Transition.weaken (step : Transition none world after)
    (left : Option BindingId) : Transition left world after :=
  { step with
    bindings := fun id binding found => by
      obtain ⟨old, foundOld, continues, busy, same⟩ :=
        step.bindings id binding found
      exact ⟨old, foundOld, continues, busy, fun _ => same nofun⟩
    covered := fun wired id _ => step.covered wired id nofun }

/-- A live property is there after a step, and only the one left out can have
changed. -/
theorem Transition.binding_after {left : Option BindingId}
    (step : Transition left world after) {id : BindingId}
    {binding : LiveBinding} (found : world.binding? id = some binding) :
    ∃ changed,
      after.binding? id = some changed ∧ changed.busy = binding.busy ∧
      (left ≠ some id →
       changed = { binding with subscriptions := changed.subscriptions }) := by
  obtain ⟨changed, foundAfter, _⟩ := step.later.bindings id binding found
  obtain ⟨old, foundOld, _, busy, same⟩ := step.bindings id changed foundAfter
  cases found.symm.trans foundOld
  exact ⟨changed, foundAfter, busy, same⟩

/-- A fresh live property stays fresh while nothing looks different that it has
read. -/
theorem Fresh.carry {id : BindingId} (fresh : world.Fresh id)
    (later : world.Later after)
    (same : ∀ binding, after.binding? id = some binding →
    ∃ old, world.binding? id = some old ∧
      binding = { old with
        subscriptions := binding.subscriptions
        busy := binding.busy })
    (seen : ∀ binding, world.binding? id = some binding →
      ∀ slot ∈ binding.watched, after.sees slot = world.sees slot) :
        after.Fresh id := by
  intro binding found
  obtain ⟨old, foundOld, equal⟩ := same binding found
  obtain ⟨outcome, gave, gives⟩ := fresh old foundOld
  refine ⟨outcome, by rw [equal]; exact gave, fun final last unchanged => ?_⟩
  have scratch : final.scratch binding = final.scratch old := by
    rw [equal]
    rfl
  rw [scratch]
  refine gives final (later.trans last) fun slot member => ?_
  rw [unchanged slot (by rw [equal]; exact member), seen old foundOld slot member]

/-- The invariant is kept by a step after which every live property hears of
what looks different. -/
theorem Settled.transition {left : Option BindingId} {roots more : List Owned}
    {stack : List BindingId} {pending announced : List Callback}
    (settled : Settled left roots world stack pending)
    (step : Transition left world after)
    (held : ∀ id, world.Held roots id → after.Held more id)
    (heldBlocks :
      ∀ id block, after.block? id = some block → after.Held more block.parent)
    (seen :
      ∀ id binding,
        left ≠ some id → world.binding? id = some binding → after.Covered id →
        after.Eligible id →
          (∀ slot ∈ binding.watched, after.sees slot = world.sees slot) ∨
          ∃ callback ∈ announced, after.Pending id callback) :
    Settled left more after stack (announced ++ pending) where
  sound := step.sound settled.sound
  wired := step.wired settled.wired
  held id binding found := by
    obtain ⟨old, foundOld, continues, _⟩ := step.bindings id binding found
    rw [continues.widget]
    exact held _ (settled.held id old foundOld)
  heldBlocks := heldBlocks
  covered id other recorded := step.covered settled.wired id other recorded
    (settled.covered id other (step.recorded id recorded))
  resolved id binding other found name member := by
    obtain ⟨old, foundOld, continues, _⟩ := step.bindings id binding found
    rw [continues.expr] at member
    rw [continues.handle]
    obtain ⟨node, stands⟩ := settled.resolved id old other foundOld name member
    exact ⟨node, step.later.agrees.nodes _ _ _
      (settled.sound.bindings id old foundOld).1 stands⟩
  busy id := by
    rw [settled.busy id]
    constructor
    · rintro ⟨binding, found, busy⟩
      obtain ⟨changed, foundAfter, same, _⟩ := step.binding_after found
      exact ⟨changed, foundAfter, same.trans busy⟩
    · rintro ⟨binding, found, busy⟩
      obtain ⟨old, foundOld, _, same, _⟩ := step.bindings id binding found
      exact ⟨old, foundOld, same.symm.trans busy⟩
  distinct := settled.distinct
  chain id member top first :=
    Relation.ReflTransGen.mono
      (fun _ _ feeds => step.later.feeds settled.sound feeds) _ _
      (settled.chain id member top first)
  fresh id other recorded eligible := by
    have recordedBefore := step.recorded id recorded
    have eligibleBefore : world.Eligible id := by
      intro binding found slot member
      obtain ⟨changed, foundAfter, _, same⟩ := step.binding_after found
      refine step.plain slot (settled.wired.watched id binding found slot member).1
        (eligible _ foundAfter slot ?_)
      rw [same other]
      exact member
    rcases settled.fresh id other recordedBefore eligibleBefore
      with fresh | circular | waiting
    · cases found : world.binding? id with
      | none =>
        refine .inl fun binding foundAfter => ?_
        obtain ⟨old, foundOld, _⟩ := step.bindings id binding foundAfter
        rw [found] at foundOld
        cases foundOld
      | some binding =>
        rcases seen id binding other found
          (step.covered settled.wired id other recorded
            (settled.covered id other recordedBefore)) eligible
          with same | ⟨callback, member, waits⟩
        · refine .inl (fresh.carry step.later (fun changed foundAfter => ?_)
            fun old foundOld => ?_)
          · obtain ⟨old, foundOld, _, _, equal⟩ :=
              step.bindings id changed foundAfter
            exact ⟨old, foundOld, by rw [equal other]⟩
          · cases found.symm.trans foundOld
            exact same
        · exact .inr (.inr ⟨callback, List.mem_append_left _ member, waits⟩)
    · exact .inr (.inl (step.later.circular settled.sound circular))
    · obtain ⟨callback, member, binding, property, changed, found,
          rfl, heard⟩ :=
        waiting
      obtain ⟨after, foundAfter, _, same⟩ := step.binding_after found
      have generation : after.generation = binding.generation := by rw [same other]
      refine .inr (.inr ⟨_, List.mem_append_right _ member, after, property,
        changed, foundAfter, ?_, heard⟩)
      rw [generation]

/-- The invariant is kept by a step after which no plain property looks
different. -/
theorem Settled.quiet {left : Option BindingId} {roots : List Owned}
    {stack : List BindingId} {pending : List Callback}
    (settled : Settled left roots world stack pending)
    (step : Transition left world after)
    (children :
      ∀ parent : WidgetId,
        (world.widget parent).children ⊆ (after.widget parent).children)
    (blocks :
      ∀ id block,
        after.block? id = some block →
        ∃ old, world.block? id = some old ∧ block.parent = old.parent)
    (sees :
      ∀ slot,
        world.Has slot.1 → after.Plain slot → after.sees slot = world.sees slot) :
    Settled left roots after stack pending := by
  have held : ∀ id, world.Held roots id → after.Held roots id :=
    fun id held => held.mono (List.Subset.refl _) children
  refine List.nil_append pending ▸ settled.transition step held ?_ ?_
  · intro id block found
    obtain ⟨old, foundOld, same⟩ := blocks id block found
    rw [same]
    exact held _ (settled.heldBlocks id old foundOld)
  · intro id binding other found _ eligible
    refine .inl fun slot member => ?_
    obtain ⟨changed, foundAfter, _, same⟩ := step.binding_after found
    refine sees slot (settled.wired.watched id binding found slot member).1
      (eligible _ foundAfter slot ?_)
    rw [same other]
    exact member

/-! ## Changes that nothing depends on -/

/-- Only the journal, the errors, what was noted of the lives of documents and
widgets, what is kept in existence or the host have changed. -/
def SameState (world after : World σ) : Prop :=
  after = { world with
    topControllers := after.topControllers
    errors := after.errors
    held := after.held
    pins := after.pins
    journal := after.journal
    readied := after.readied
    lives := after.lives
    exhausted := after.exhausted
    host := after.host }

/-- A world that differs in its host and its records only is one step further.
-/
theorem SameState.transition (same : SameState world after) :
    Transition none world after := by
  rw [same]
  refine { later := ?_, sound := fun sound => ?_,
           wired := fun wired => { wired with },
           bindings := fun id binding found =>
             ⟨binding, found, .refl binding, rfl, fun _ => rfl⟩,
           recorded := fun id recorded => recorded,
           covered := fun _ _ _ _ covered => covered,
           plain := ?_ }
  · refine ⟨?_, ?_, Nat.le_refl _, Nat.le_refl _, ?_⟩
    · exact ⟨rfl, rfl, rfl, rfl, fun _ _ => rfl, fun _ _ => rfl, fun _ _ => rfl,
        fun _ _ => rfl, fun _ _ => rfl, fun _ _ _ _ found => found⟩
    · exact ⟨Nat.le_refl _, Nat.le_refl _, Nat.le_refl _, Nat.le_refl _⟩
    · intro _ binding found
      exact ⟨binding, found, .refl binding⟩
  · refine sound.transfer ⟨rfl, rfl, fun _ => rfl, fun _ => rfl⟩ rfl rfl rfl
      (Nat.le_refl _) (fun _ _ member => .inl member) ?_ ?_
    · intro _ binding found
      exact ⟨binding, found, rfl, rfl, rfl⟩
    · intro _ block found
      exact ⟨block, found, rfl, rfl, rfl⟩
  · rintro ⟨object, name⟩ _ plain
    cases object <;> exact plain

theorem SameState.sees (same : SameState world after) (slot : ObjectId × String) :
    after.sees slot = world.sees slot := by
  obtain ⟨object, name⟩ := slot
  rw [same]
  cases object <;> rfl

theorem SameState.widget (same : SameState world after) (id : WidgetId) :
    after.widget id = world.widget id := by
  rw [same]
  rfl

theorem SameState.block? (same : SameState world after) (id : BlockId) :
    after.block? id = world.block? id := by
  rw [same]
  rfl

/-- Live properties remain settled if the state is the same. -/
theorem Settled.sameState {left : Option BindingId} {roots : List Owned}
    {stack : List BindingId} {pending : List Callback}
    (settled : Settled left roots world stack pending)
    (same : SameState world after) :
    Settled left roots after stack pending := by
  refine settled.quiet (same.transition.weaken left) ?_ ?_ fun slot _ _ =>
    same.sees slot
  · intro parent
    rw [same.widget]
    exact List.Subset.refl _
  · intro id block found
    rw [same.block?] at found
    exact ⟨block, found, rfl⟩

/-! ## Sweeping -/

theorem Cuts.plain {lost : BindingId → Prop} (cuts : Cuts lost world after)
    (slot : ObjectId × String) : after.Plain slot ↔ world.Plain slot := by
  obtain ⟨object, name⟩ := slot
  cases object with
  | bag id => exact Iff.rfl
  | widget id => simp only [World.Plain, cuts.content.cls]
  | handle id => simp only [World.Plain, cuts.handle]

theorem Cuts.sees {lost : BindingId → Prop} (cuts : Cuts lost world after)
    (slot : ObjectId × String) : after.sees slot = world.sees slot :=
  cuts.content.sees cuts.handles slot

/-- Names that were known are known when something was cut. -/
theorem Cuts.sound {lost : BindingId → Prop} (cuts : Cuts lost world after)
    {limit : Nat} (sound : world.Sound limit) : after.Sound limit := by
  refine sound.transfer cuts.content cuts.handles ?_ ?_ ?_ ?_ ?_ ?_
  · rw [cuts.rest]
  · rw [cuts.rest]
  · exact Nat.le_of_eq cuts.listCount.symm
  · intro id value member
    rw [cuts.listItems] at member
    exact .inl member
  · intro id binding found
    obtain ⟨old, foundOld, _, same⟩ := cuts.binding_before found
    exact ⟨old, foundOld, by rw [same], by rw [same], by rw [same]⟩
  · intro id block found
    obtain ⟨old, foundOld, same⟩ := cuts.blocks id block found
    exact ⟨old, foundOld, by rw [same], by rw [same], by rw [same]⟩

/-- What is swept away is a step in which no live property that is left has
changed. -/
theorem Sweeps.transition (sweeps : Sweeps world after) :
    Transition none world after where
  later := Cuts.later sweeps
  sound sound := by
    have loaded : after.loaded = world.loaded := by rw [Cuts.rest sweeps]
    rw [loaded]
    exact Cuts.sound sweeps sound
  wired := Cuts.wired sweeps
  bindings id binding found := by
    obtain ⟨old, foundOld, _, same⟩ := Cuts.binding_before sweeps found
    refine ⟨old, foundOld, ?_, by rw [same], fun _ => same⟩
    rw [same]
    exact ⟨rfl, rfl, rfl, rfl, rfl, Nat.le_refl _, List.Subset.refl _⟩
  recorded _ recorded := Cuts.recorded sweeps recorded
  covered _ _ _ recorded covered :=
    Cuts.covered sweeps (fun gone => gone recorded) covered
  plain slot _ plain := (Cuts.plain sweeps slot).mp plain

/-- Live properties remain settled when others are swept away. -/
theorem Settled.sweeps {left : Option BindingId} {roots : List Owned}
    {stack : List BindingId} {pending : List Callback}
    (settled : Settled left roots world stack pending)
    (sweeps : Sweeps world after) : Settled left roots after stack pending := by
  refine settled.quiet (sweeps.transition.weaken left) ?_ ?_ fun slot _ _ =>
    Cuts.sees sweeps slot
  · intro parent
    rw [sweeps.content.children]
    exact List.Subset.refl _
  · intro id block found
    obtain ⟨old, foundOld, same⟩ := Cuts.blocks sweeps id block found
    exact ⟨old, foundOld, by rw [same]⟩

theorem Settled.sweep {left : Option BindingId} {roots : List Owned}
    {stack : List BindingId} {pending : List Callback}
    (settled : Settled left roots world stack pending) :
    Settled left roots world.sweep stack pending :=
  settled.sweeps settled.wired.sweeps_sweep

/-! ## Evaluating once -/

/-- To listen for a live property is a step in which only that one changes. -/
theorem Watches.transition {watcher : Option BindingId}
    (watches : Watches watcher world after) :
    Transition watcher world after where
  later := watches.later
  sound sound := watches.soundLoaded sound
  wired := watches.wired
  bindings id binding found := by
    by_cases own : watcher = some id
    · obtain ⟨old, foundOld⟩ : ∃ old, world.binding? id = some old := by
        refine Store.get?_of_lt ?_
        have inside := Store.lt_size_of_get? found
        rwa [watches.bindingCount] at inside
      obtain ⟨later, foundLater, grows⟩ := watches.own id own old foundOld
      cases found.symm.trans foundLater
      obtain ⟨after, foundAfter, continues⟩ :=
        watches.later.bindings id old foundOld
      cases found.symm.trans foundAfter
      refine ⟨old, foundOld, continues, ?_, fun other => absurd own other⟩
      rw [grows.same]
    · rw [watches.others id own] at found
      exact ⟨binding, found, .refl binding, rfl, fun _ => rfl⟩
  recorded id recorded := by
    obtain ⟨keeper, member⟩ := recorded
    refine ⟨keeper, ?_⟩
    rw [watches.rest] at member
    exact member
  covered wired id _ _ covered := watches.covered wired id covered
  plain slot _ plain := (watches.plain slot).mp plain

/-- While a live property is left out of account it may listen to more. -/
theorem Settled.watches {left : Option BindingId} {roots : List Owned}
    {stack : List BindingId} {pending : List Callback}
    (settled : Settled left roots world stack pending)
    (watches : Watches left world after) :
    Settled left roots after stack pending := by
  refine settled.quiet watches.transition ?_ ?_ fun slot _ _ => watches.sees slot
  · intro parent
    rw [watches.content.children]
    exact List.Subset.refl _
  · intro id block found
    rw [watches.rest] at found
    exact ⟨block, found, rfl⟩

end LiveMarkup.World
