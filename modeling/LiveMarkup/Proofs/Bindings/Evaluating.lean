import LiveMarkup.Proofs.Bindings.Steps

/-!
# Evaluating a live property again

An evaluation first gives up everything that the live property listens to, and
then listens to what it reads.  At its end the live property is fresh.
-/

namespace LiveMarkup.World

variable {σ : Type} {world middle after : World σ} {id : BindingId}

/-! ## What stays -/

/-- Neither the tree nor the documents nor the host have changed. -/
structure Stays (world after : World σ) : Prop where
  later : world.Later after
  handles : after.handles = world.handles
  held : after.held = world.held
  widgetCount : after.widgets.size = world.widgets.size
  bindingCount : after.bindings.size = world.bindings.size
  children : ∀ id, (after.widget id).children = (world.widget id).children
  parent : ∀ id, (after.widget id).parent = (world.widget id).parent

theorem Stays.refl (world : World σ) : world.Stays world :=
  ⟨.refl world, rfl, rfl, rfl, rfl, fun _ => rfl, fun _ => rfl⟩

theorem Stays.trans (left : world.Stays middle) (right : middle.Stays after) :
    world.Stays after where
  later := left.later.trans right.later
  handles := right.handles.trans left.handles
  held := right.held.trans left.held
  widgetCount := right.widgetCount.trans left.widgetCount
  bindingCount := right.bindingCount.trans left.bindingCount
  children id := (right.children id).trans (left.children id)
  parent id := (right.parent id).trans (left.parent id)

theorem Cuts.stays {lost : BindingId → Prop} (cuts : Cuts lost world after) :
    world.Stays after where
  later := cuts.later
  handles := cuts.handles
  held := by rw [cuts.rest]
  widgetCount := cuts.content.widgetCount
  bindingCount := cuts.bindingCount
  children := cuts.content.children
  parent id := by rw [cuts.content.widgets id]

theorem Watches.stays {watcher : Option BindingId}
    (watches : Watches watcher world after) : world.Stays after where
  later := watches.later
  handles := watches.handles
  held := by rw [watches.rest]
  widgetCount := watches.content.widgetCount
  bindingCount := watches.bindingCount
  children := watches.content.children
  parent id := by rw [watches.content.widgets id]

theorem SameState.stays (same : SameState world after)
    (held : after.held = world.held) : world.Stays after := by
  refine ⟨same.transition.later, ?_, held, ?_, ?_, ?_, ?_⟩ <;> rw [same]
  · exact fun _ => rfl
  · exact fun _ => rfl

/-! ## Changing the live property that evaluates -/

/-- What is cut from one live property is a step in which only that one may
change. -/
theorem Cuts.transition (cuts : Cuts (· = id) world after) :
    Transition (some id) world after where
  later := cuts.later
  sound sound := by
    have loaded : after.loaded = world.loaded := by rw [cuts.rest]
    rw [loaded]
    exact cuts.sound sound
  wired := cuts.wired
  bindings other binding found := by
    obtain ⟨old, foundOld, _, same⟩ := cuts.binding_before found
    refine ⟨old, foundOld, ?_, by rw [same], fun _ => same⟩
    rw [same]
    exact ⟨rfl, rfl, rfl, rfl, rfl, Nat.le_refl _, List.Subset.refl _⟩
  recorded _ recorded := cuts.recorded recorded
  covered _ other different _ covered :=
    cuts.covered (fun same => different (congrArg some same.symm)) covered
  plain slot _ plain := (cuts.plain slot).mp plain

/-- A change of a live property that keeps its listeners in force, or makes them
all outdated. -/
structure Renews (change : LiveBinding → LiveBinding) : Prop where
  continues : ∀ binding : LiveBinding, binding.Continues (change binding)
  subscriptions : ∀ binding, (change binding).subscriptions = binding.subscriptions
  everWatched : ∀ binding, (change binding).everWatched = binding.everWatched
  listening : ∀ binding,
      ((change binding).generation = binding.generation ∧
       (change binding).watched = binding.watched) ∨
      (binding.generation < (change binding).generation ∧
       (change binding).watched = [])

/-- The registrations go on to agree with the records when a live property is
renewed, for it keeps its own. -/
theorem Wired.updateBinding (wired : world.Wired)
    {change : LiveBinding → LiveBinding} (renews : Renews change) :
    (world.updateBinding id change).Wired where
  ordered := wired.ordered
  heard post number other generation property member := by
    obtain ⟨binding, found, below, current⟩ :=
      wired.heard post number other generation property member
    rw [binding?_updateBinding]
    split
    · refine ⟨change binding, by rw [found]; rfl,
        Nat.le_trans below (renews.continues binding).generation, fun now => ?_⟩
      rcases renews.listening binding with ⟨same, watched⟩ | ⟨newer, _⟩
      · rw [watched]
        exact current (now.trans same)
      · exact absurd newer (Nat.not_lt.mpr (now ▸ below))
    · exact ⟨binding, found, below, current⟩
  records other binding found record member := by
    rw [binding?_updateBinding] at found
    split at found
    · obtain ⟨old, foundOld, rfl⟩ := Option.map_eq_some_iff.mp found
      rw [renews.subscriptions] at member
      exact wired.records other old foundOld record member
    · exact wired.records other binding found record member
  watched other binding found slot member := by
    rw [binding?_updateBinding] at found
    split at found
    · obtain ⟨old, foundOld, rfl⟩ := Option.map_eq_some_iff.mp found
      rw [renews.everWatched]
      rcases renews.listening old with ⟨_, watched⟩ | ⟨_, nothing⟩
      · rw [watched] at member
        exact wired.watched other old foundOld slot member
      · rw [nothing] at member
        cases member
    · exact wired.watched other binding found slot member
  keepers keeper record member := by
    rw [World.updateBinding, Store.size_update]
    exact wired.keepers keeper record member
  single := wired.single

/-- Names that a live property holds are still known when it has changed in what
it has read or concluded. -/
theorem Sound.updateBinding {limit : Nat} (sound : world.Sound limit)
    {change : LiveBinding → LiveBinding}
    (keeps :
      ∀ binding,
        (change binding).handle = binding.handle ∧
        (change binding).widget = binding.widget ∧
        (change binding).scope = binding.scope) :
    (world.updateBinding id change).Sound limit := by
  refine sound.transfer ⟨rfl, rfl, fun _ => rfl, fun _ => rfl⟩ rfl rfl rfl
    (Nat.le_refl _) (fun _ _ member => .inl member) ?_ fun _ block found =>
      ⟨block, found, rfl, rfl, rfl⟩
  intro other binding found
  rw [binding?_updateBinding] at found
  split at found
  · obtain ⟨old, foundOld, rfl⟩ := Option.map_eq_some_iff.mp found
    exact ⟨old, foundOld, keeps old⟩
  · exact ⟨binding, found, rfl, rfl, rfl⟩

/-- A live property that goes on under the same name leaves everything in place.
-/
theorem later_updateBinding (world : World σ) (id : BindingId)
    {change : LiveBinding → LiveBinding}
    (continues : ∀ binding : LiveBinding, binding.Continues (change binding)) :
    world.Later (world.updateBinding id change) where
  agrees :=
    ⟨rfl, rfl, rfl, rfl, fun _ _ => rfl, fun _ _ => rfl, fun _ _ => rfl,
      fun _ _ => rfl, fun _ _ => rfl, fun _ _ _ _ found => found⟩
  fits := ⟨Nat.le_refl _, Nat.le_refl _, Nat.le_refl _, Nat.le_refl _⟩
  loaded := Nat.le_refl _
  bindingCount := Nat.le_of_eq (Store.size_update ..).symm
  bindings other binding found := by
    rw [binding?_updateBinding]
    split
    · exact ⟨change binding, by rw [found]; rfl, continues binding⟩
    · exact ⟨binding, found, .refl binding⟩

theorem stays_updateBinding (world : World σ) (id : BindingId)
    {change : LiveBinding → LiveBinding}
    (continues : ∀ binding : LiveBinding, binding.Continues (change binding)) :
    world.Stays (world.updateBinding id change) :=
  ⟨later_updateBinding world id continues, rfl, rfl, rfl, Store.size_update ..,
    fun _ => rfl, fun _ => rfl⟩

/-- Renewing one live property is a step in which only that one changes. -/
theorem transition_updateBinding (world : World σ) (id : BindingId)
    {change : LiveBinding → LiveBinding} (renews : Renews change)
    (busy : ∀ binding, (change binding).busy = binding.busy) :
    Transition (some id) world (world.updateBinding id change) where
  later := later_updateBinding world id renews.continues
  sound sound := sound.updateBinding fun binding =>
    ⟨(renews.continues binding).handle, (renews.continues binding).widget,
      (renews.continues binding).scope⟩
  wired wired := wired.updateBinding renews
  bindings other binding found := by
    rw [binding?_updateBinding] at found
    split at found
    case isTrue same =>
      obtain ⟨old, foundOld, rfl⟩ := Option.map_eq_some_iff.mp found
      refine ⟨old, foundOld, renews.continues old, busy old, ?_⟩
      intro other
      exact absurd (congrArg some same) other
    case isFalse => exact ⟨binding, found, .refl binding, rfl, fun _ => rfl⟩
  recorded _ recorded := recorded
  covered _ other different _ covered := by
    intro binding found
    rw [binding?_updateBinding,
      if_neg fun same => different (congrArg some same)] at found
    exact covered binding found
  plain slot _ plain := by
    obtain ⟨object, name⟩ := slot
    cases object <;> exact plain

theorem sees_updateBinding (world : World σ) (id : BindingId)
    (change : LiveBinding → LiveBinding) (slot : ObjectId × String) :
    (world.updateBinding id change).sees slot = world.sees slot := by
  obtain ⟨object, name⟩ := slot
  cases object <;> rfl

/-- While one live property is left out of account it may be renewed. -/
theorem Settled.updateBinding {roots : List Owned} {stack : List BindingId}
    {pending : List Callback}
    (settled : Settled (some id) roots world stack pending)
    {change : LiveBinding → LiveBinding} (renews : Renews change)
    (busy : ∀ binding, (change binding).busy = binding.busy) :
    Settled (some id) roots (world.updateBinding id change) stack pending :=
  settled.quiet (transition_updateBinding world id renews busy)
    (fun _ => List.Subset.refl _) (fun _ block found => ⟨block, found, rfl⟩)
    fun slot _ _ =>
      sees_updateBinding world id change slot

/-! ## The evaluation -/

theorem renews_next : Renews fun old =>
    { old with generation := old.generation + 1, watched := [] } where
  continues _ := ⟨rfl, rfl, rfl, rfl, rfl, Nat.le_succ _, List.Subset.refl _⟩
  subscriptions _ := rfl
  everWatched _ := rfl
  listening _ := .inr ⟨Nat.lt_succ_self _, rfl⟩

theorem renews_outcome (outcome : Except UiError Value) : Renews fun old =>
    { old with outcome := some outcome } where
  continues _ := ⟨rfl, rfl, rfl, rfl, rfl, Nat.le_refl _, List.Subset.refl _⟩
  subscriptions _ := rfl
  everWatched _ := rfl
  listening _ := .inl ⟨rfl, rfl⟩

/-- While it is left out of account its registrations may be cut. -/
theorem Settled.cuts {roots : List Owned} {stack : List BindingId}
    {pending : List Callback}
    (settled : Settled (some id) roots world stack pending)
    (cuts : Cuts (· = id) world after) :
    Settled (some id) roots after stack pending := by
  refine settled.quiet cuts.transition ?_ ?_ fun slot _ _ => cuts.sees slot
  · intro parent
    rw [cuts.content.children]
    exact List.Subset.refl _
  · intro other block found
    obtain ⟨old, foundOld, same⟩ := cuts.blocks other block found
    exact ⟨old, foundOld, by rw [same]⟩

/-- The live property is left out no longer once it is covered, its aliases are
resolved and it is fresh. -/
theorem Settled.complete {roots : List Owned} {stack : List BindingId}
    {pending : List Callback}
    (settled : Settled (some id) roots world stack pending)
    (covered : world.Covered id)
    (resolved :
      ∀ binding,
        world.binding? id = some binding →
        ∀ name ∈ binding.expr.aliases, ∃ node,
          world.aliasWidget? binding.handle name = some node)
    (fresh : world.Eligible id → world.Fresh id) :
    Settled none roots world stack pending :=
  { settled with
    covered := fun other _ recorded => by
      by_cases same : id = other
      · exact same ▸ covered
      · refine settled.covered other ?_ recorded
        intro equal
        exact same (Option.some.inj equal)
    resolved := fun other binding _ found => by
      by_cases same : id = other
      · subst same
        exact resolved binding found
      · refine settled.resolved other binding ?_ found
        intro equal
        exact same (Option.some.inj equal)
    fresh := fun other _ recorded eligible => by
      by_cases same : id = other
      · subst same
        exact .inl (fresh eligible)
      · exact settled.fresh other (fun equal => same (Option.some.inj equal))
          recorded eligible }

/-- To evaluate a live property is to renew it, to evaluate its expression, and
to note the outcome. -/
theorem evaluate_run {binding : LiveBinding}
    (found : (id.renew world).binding? id = some binding) :
    (id.evaluate.run world) =
      let context : EvaluationContext :=
        ⟨some binding.handle, binding.scope, some id⟩
      let run := (context.eval binding.expr).run (id.renew world)
      (run.1, id.conclude run.1 run.2) := by
  change ((modify id.renew : Action σ Unit) >>= _) world = _
  rw [Action.bind_apply, Action.modify_apply, Action.bind_apply, Action.get_apply]
  simp only [found]
  rfl

/-- What an evaluation of a live property does to the world. -/
structure Evaluates (id : BindingId) (world after : World σ) : Prop where
  stays : world.Stays after
  pins : after.pins = world.pins
  sees : ∀ slot, after.sees slot = world.sees slot

theorem Evaluates.trans (left : Evaluates id world middle)
    (right : Evaluates id middle after) : Evaluates id world after := by
  refine ⟨left.stays.trans right.stays, right.pins.trans left.pins, ?_⟩
  intro slot
  exact (right.sees slot).trans (left.sees slot)

theorem Cuts.evaluates {lost : BindingId → Prop}
    (cuts : Cuts lost world after) (id : BindingId) :
    Evaluates id world after :=
  ⟨cuts.stays, by rw [cuts.rest], cuts.sees⟩

theorem Watches.evaluates {watcher : Option BindingId}
    (watches : Watches watcher world after) (id : BindingId) :
    Evaluates id world after :=
  ⟨watches.stays, by rw [watches.rest], watches.sees⟩

theorem evaluates_updateBinding (world : World σ) (id : BindingId)
    {change : LiveBinding → LiveBinding}
    (continues : ∀ binding : LiveBinding, binding.Continues (change binding)) :
    Evaluates id world (world.updateBinding id change) :=
  ⟨stays_updateBinding world id continues, rfl, sees_updateBinding world id change⟩

theorem Wired.evaluates_renew (wired : world.Wired) (id : BindingId) :
    Evaluates id world (id.renew world) :=
  ((wired.cuts_cancelBinding id).evaluates id).trans
    (evaluates_updateBinding _ id renews_next.continues)

theorem Settled.renew {roots : List Owned} {stack : List BindingId}
    {pending : List Callback}
    (settled : Settled (some id) roots world stack pending) :
    Settled (some id) roots (id.renew world) stack pending :=
  (settled.cuts (settled.wired.cuts_cancelBinding id)).updateBinding renews_next
    fun _ => rfl

/-- Renewing a live property leaves it with records that it held before, and
with nothing that it has read. -/
theorem Wired.renew_binding (wired : world.Wired) {binding : LiveBinding}
    (found : world.binding? id = some binding) :
    ∃ records, (id.renew world).binding? id = some
      { binding with
        subscriptions := records
        generation := binding.generation + 1
        watched := [] } := by
  obtain ⟨records, foundAfter⟩ := (wired.cuts_cancelBinding id).binding_after found
  refine ⟨records, ?_⟩
  rw [BindingId.renew, binding?_updateBinding, if_pos rfl, foundAfter]
  rfl

theorem conclude_binding {outcome : Except UiError Value}
    {binding : LiveBinding} (found : world.binding? id = some binding) :
    (id.conclude outcome world).binding? id =
      some { binding with outcome := some outcome } := by
  rw [BindingId.conclude, binding?_updateBinding, if_pos rfl, found]
  rfl

theorem map_forget_renumber (outcome : Except UiError Value)
    (change : Nat → Nat) :
    (outcome.map (Value.renumber change)).map Value.forget =
      outcome.map Value.forget := by
  cases outcome with
  | error => rfl
  | ok value => exact congrArg Except.ok (Value.forget_renumber change value)

/-- A live property is fresh when it has been evaluated: the evaluation has
listened to everything that its outcome depends on. -/
theorem Settled.evaluate {roots : List Owned} {stack : List BindingId}
    {pending : List Callback} {binding : LiveBinding}
    (settled : Settled (some id) roots world stack pending)
    (found : world.binding? id = some binding)
    (resolved :
      (∀ name ∈ binding.expr.aliases, ∃ node,
        world.aliasWidget? binding.handle name = some node) ∨
      ∃ value, (id.evaluate.run world).1 = .ok value) :
    Settled none roots (id.evaluate.run world).2 stack pending ∧
    Evaluates id world (id.evaluate.run world).2 ∧
    ∀ value,
      (id.evaluate.run world).1 = .ok value →
      value.Known (id.evaluate.run world).2
        (id.evaluate.run world).2.loaded := by
  obtain ⟨records, renewed⟩ := settled.wired.renew_binding found
  have begun := settled.wired.evaluates_renew id
  have settledRenewed := settled.renew
  have run := evaluate_run renewed
  simp only at run
  have known := settledRenewed.sound.bindings id _ renewed
  have ready :
      (⟨some binding.handle, binding.scope, some id⟩ : EvaluationContext).Ready
        (id.renew world) :=
    ⟨settledRenewed.sound, settledRenewed.wired,
      fun _ same => by cases same; exact known.1,
      known.2.2⟩
  have follows : ∀ base distance,
      Follows ⟨some binding.handle, binding.scope, some id⟩ base distance
        binding.expr.aliases (Value.renumber (Value.shift base distance))
        (fun after value => value.Known after after.loaded) (id.renew world)
        (EvaluationContext.eval ⟨some binding.handle, binding.scope, some id⟩
          binding.expr) (EvaluationContext.eval
            ⟨some binding.handle, binding.scope, none⟩ binding.expr) :=
    fun base distance => follows_eval binding.expr _ ready
  rcases ran : (EvaluationContext.eval ⟨some binding.handle, binding.scope, some id⟩
    binding.expr).run (id.renew world) with ⟨outcome, middle⟩
  rw [ran] at run
  rw [run]
  have watches := (follows 0 0).watches
  rw [ran] at watches
  obtain ⟨grown, foundMiddle, continues⟩ := watches.later.bindings id _ renewed
  have concluded : (id.conclude outcome middle).binding? id =
      some { grown with outcome := some outcome } := conclude_binding foundMiddle
  have ended := evaluates_updateBinding middle id (renews_outcome outcome).continues
  have resolves :
      (⟨some binding.handle, binding.scope, some id⟩ :
        EvaluationContext).Resolves (id.renew world) binding.expr.aliases := by
    rcases resolved with all | ⟨value, success⟩
    · intro name member
      obtain ⟨node, stands⟩ := all name member
      have before := (settled.sound.bindings id binding found).1
      exact ⟨node, begun.stays.later.agrees.nodes _ _ _ before stands⟩
    · rw [run] at success
      refine (follows 0 0).resolves value ?_
      rw [ran]
      exact success
  refine ⟨?_, begun.trans ((watches.evaluates id).trans ended), ?_⟩
  · refine ((settledRenewed.watches watches).updateBinding (renews_outcome outcome)
      fun _ => rfl).complete ?_ ?_ ?_
    · -- nothing was read when the evaluation began
      have nothing : (id.renew world).Covered id := by
        intro binding foundAgain slot member
        cases renewed.symm.trans foundAgain
        cases member
      intro after foundAfter slot member
      cases concluded.symm.trans foundAfter
      exact watches.covered settledRenewed.wired id nothing grown
        foundMiddle slot member
    · intro after foundAfter name member
      cases concluded.symm.trans foundAfter
      simp only [continues.expr] at member
      obtain ⟨node, stands⟩ := resolves name member
      refine ⟨node, ?_⟩
      simp only [continues.handle]
      exact (watches.aliasWidget? _ _).trans stands
    · intro eligible after foundAfter
      cases concluded.symm.trans foundAfter
      refine ⟨outcome, rfl, fun later last unchanged => ?_⟩
      have since := (watches.later.trans ended.stays.later).trans last
      have mirrors :
          Mirrors ⟨some binding.handle, binding.scope, some id⟩
            (id.renew world).loaded (later.loaded - (id.renew world).loaded)
            (id.renew world) later :=
        { agrees := since.agrees
          loaded := by
            have more := since.loaded
            omega
          below := Nat.le_refl _
          sound := settledRenewed.sound
          scope := known.2.2
          bound := ⟨id, _, rfl, renewed⟩ }
      have mirrored := (follows _ _).mirrored later mirrors resolves
      rw [ran] at mirrored
      have same := (mirrored fun slot member => ?_).1
      · have scratch : later.scratch { grown with outcome := some outcome } =
            outcome.map (Value.renumber (Value.shift (id.renew world).loaded
              (later.loaded - (id.renew world).loaded))) := by
          simp only [scratch, continues.handle, continues.scope, continues.expr]
          exact congrArg Prod.fst same
        rw [scratch, map_forget_renumber]
      · simp only [watching, foundMiddle, Option.map_some, Option.getD_some]
          at member
        have plain : middle.Plain slot := by
          have plainAfter := eligible _ concluded slot member
          obtain ⟨object, name⟩ := slot
          cases object <;> exact plainAfter
        refine ⟨(watches.plain slot).mp plain, ?_⟩
        rw [unchanged slot member, ended.sees, watches.sees]
  · intro value success
    refine Value.Known.mono ended.stays.later.fits (Nat.le_refl _) value ?_
    have known := (follows 0 0).known value
    rw [ran] at known
    exact known success

end LiveMarkup.World
