import LiveMarkup.Proofs.Cascades.Busy
import LiveMarkup.Proofs.World.Growth

/-!
# Two ways to deliver callbacks

An announcement runs the same with two ways to deliver callbacks, if these do
the same with every callback that hears of a changed property.  They need to do
so only in the worlds that can occur: whatever has run so far, the same live
properties are there and busy, and what was kept in existence still is.
-/

namespace LiveMarkup

variable {σ α β : Type}

/-- What a cascade of announcements leaves alone: which live properties there
are, which of them are busy, and which widgets are kept in existence.  No
callback was dropped because it was nested too deeply. -/
structure World.Undisturbed (world after : World σ) : Prop where
  exhausted : after.exhausted = world.exhausted
  bindingCount : after.bindings.size = world.bindings.size
  widgets : ∀ id,
      (after.binding? id).map (·.widget) = (world.binding? id).map (·.widget)
  busy : world.SameBusy after
  pinned : ∀ widget,
      Owned.widget widget ∈ world.pins → Owned.widget widget ∈ after.pins

open World (Undisturbed)

instance : AllowsMinor (Undisturbed : World σ → World σ → Prop) where
  refl world := ⟨rfl, rfl, fun _ => rfl, Chains.refl world, fun _ => id⟩
  trans left right :=
    { exhausted := right.exhausted.trans left.exhausted
      bindingCount := right.bindingCount.trans left.bindingCount
      widgets := fun id => (right.widgets id).trans (left.widgets id)
      busy := Chains.trans left.busy right.busy
      pinned := fun widget kept => right.pinned widget (left.pinned widget kept) }
  minor minor :=
    { exhausted := minor.exhausted
      bindingCount := minor.bindingCount
      widgets := fun id => by
        have same := congrArg (Option.map Prod.fst) (minor.bindings id)
        rwa [Option.map_map, Option.map_map] at same
      busy := AllowsMinor.minor minor
      pinned := fun _ kept => minor.pins ▸ kept }

/-- In every world that an earlier one leads to, two actions do the same, and
lead on to such a world. -/
def Action.Agree (world : World σ) (first second : Action σ α) : Prop :=
  ∀ now, Undisturbed world now →
    second now = first now ∧ Undisturbed world (first now).2

def Attempt.Agree (world : World σ) (first second : Attempt σ α) : Prop :=
  Action.Agree world first.run second.run

/-- Two ways to deliver callbacks do the same with those that hear of a changed
property. -/
def Deliver.Agree (world : World σ) (first second : Deliver σ) : Prop :=
  ∀ listener changed, Action.Agree world (first (.property listener changed))
    (second (.property listener changed))

section Combining

variable {world : World σ}

theorem Action.Agree.within {action : Action σ α}
    (within : Action.Within Undisturbed action) :
    Action.Agree world action action :=
  fun now before => ⟨rfl, Chains.trans before (within now)⟩

/-- Actions agree in a row if they agree one by one. -/
theorem Action.Agree.bind {first second : Action σ α}
    {next following : α → Action σ β}
    (agree : Action.Agree world first second)
    (rest : ∀ result, Action.Agree world (next result) (following result)) :
    Action.Agree world (first >>= next) (second >>= following) := by
  intro now before
  obtain ⟨same, after⟩ := agree now before
  rw [Action.bind_apply, Action.bind_apply, same]
  exact rest _ _ after

theorem Attempt.Agree.within {attempt : Attempt σ α}
    (within : Attempt.Within Undisturbed attempt) :
    Attempt.Agree world attempt attempt :=
  Action.Agree.within within

/-- So do attempts. -/
theorem Attempt.Agree.bind {first second : Attempt σ α}
    {next following : α → Attempt σ β}
    (agree : Attempt.Agree world first second)
    (rest : ∀ result, Attempt.Agree world (next result) (following result)) :
    Attempt.Agree world (first >>= next) (second >>= following) := by
  intro now before
  obtain ⟨same, after⟩ := agree now before
  rw [Attempt.bind_run, Attempt.bind_run, same]
  rcases ran : first.run now with ⟨outcome, middle⟩
  rw [ran] at after
  cases outcome with
  | ok result => exact rest result middle after
  | error => exact ⟨rfl, after⟩

theorem Attempt.Agree.lift {first second : Action σ α}
    (agree : Action.Agree world first second) :
    Attempt.Agree world (liftM first : Attempt σ α) (liftM second) := by
  intro now before
  obtain ⟨same, after⟩ := agree now before
  rw [Attempt.lift_run, Attempt.lift_run, same]
  exact ⟨rfl, after⟩

end Combining

/-! ## Announcements -/

section Announcing

variable {world : World σ} {first second : Deliver σ}

theorem World.undisturbed_pin (world : World σ) (things : List Owned) :
    Undisturbed world (world.pin things) := by
  refine ⟨rfl, rfl, fun _ => rfl, .of_bindings rfl, ?_⟩
  intro _ kept
  exact List.mem_append_right things kept

/-- The end of a callback that hears of a changed property releases no widget. -/
theorem World.undisturbed_unpin (world : World σ) (listener : PropertyListener) :
    Undisturbed world (world.unpin listener.owns) := by
  have erased : Undisturbed world
    { world with pins := listener.owns.foldl List.erase world.pins } := by
    refine ⟨rfl, rfl, fun _ => rfl, .of_bindings rfl, fun widget kept => ?_⟩
    cases listener with
    | binding id =>
      have apart : Owned.widget widget ≠ .binding id := nofun
      exact (List.mem_erase_of_ne apart).mpr kept
    | host => exact kept
  exact Chains.trans erased (AllowsSlight.slight (slight_sweep _))

theorem agree_runEach (delivers : Deliver.Agree world first second)
    (changed : String) (listeners : List PropertyListener) :
    Action.Agree world (runEach first (listeners.map (.property · changed)))
      (runEach second (listeners.map (.property · changed))) := by
  induction listeners with
  | nil => exact .within (.pure _)
  | cons listener rest hypothesis =>
    exact .bind (.within .get) fun _ => .bind (delivers listener changed) fun _ =>
      .bind (.within (.modify fun world => world.undisturbed_unpin listener))
        fun _ => hypothesis

theorem agree_notify (delivers : Deliver.Agree world first second)
    (object : ObjectId) (changed : String) :
    Action.Agree world (object.notify first changed)
      (object.notify second changed) :=
  .bind (.within .get) fun _ =>
    .bind (.within (.modify fun world => world.undisturbed_pin _)) fun _ =>
      agree_runEach delivers changed _

theorem agree_set (delivers : Deliver.Agree world first second) (bag : BagId)
    (name : String) (value : Value) :
    Action.Agree world (bag.set first name value) (bag.set second name value) :=
  .bind (.within (.modify fun _ =>
    AllowsMinor.minor (.of_eq rfl rfl rfl rfl rfl))) fun _ =>
      agree_notify delivers _ _

theorem agree_write (delivers : Deliver.Agree world first second)
    (widget : WidgetId) (name : String) (value : Value) :
    Attempt.Agree world (widget.write first name value)
      (widget.write second name value) := by
  unfold WidgetId.write
  refine .bind (.within .getThe) fun now => ?_
  simp only
  split
  · exact .within (.throw _)
  · refine .bind (.within
      (.modifyThe fun _ => AllowsMinor.minor (.of_eq rfl rfl rfl rfl rfl)))
      fun _ => ?_
    split
    · exact .within (.throw _)
    · exact .lift (agree_notify delivers _ _)

theorem agree_applyProperty (delivers : Deliver.Agree world first second)
    (widget : WidgetId) (key : String) (value : Value) :
    Attempt.Agree world (applyProperty first widget key value)
      (applyProperty second widget key value) := by
  have sets : ∀ value,
      Attempt.Agree world (Toolkit.setProperty first widget key value)
        (Toolkit.setProperty second widget key value) := by
    intro value
    exact .bind (.within
      (.modifyThe fun _ => AllowsMinor.minor (.of_eq rfl rfl rfl rfl rfl)))
      fun _ => agree_write delivers _ _ _
  unfold applyProperty
  split
  · split
    · exact .within (.slight (slight_applyOverrides _ _))
    · exact .within (.bind .getThe fun _ => .throw _)
  · split
    · refine .bind (.within (.slight (slight_getProperty _ _))) fun old => ?_
      split
      · exact sets _
      · exact sets _
    · exact sets _

end Announcing

/-! ## Refreshing -/

section Refreshing

variable {world after : World σ} {first second : Deliver σ} {id : BindingId}
  {binding : LiveBinding}

theorem World.widget_mark (world : World σ) (id other : BindingId) (busy : Bool) :
    ((world.updateBinding id ({ · with busy })).binding? other).map (·.widget) =
      (world.binding? other).map (·.widget) := by
  rw [binding?_updateBinding]
  split
  · rw [Option.map_map]
    rfl
  · rfl

/-- A refresh leaves alone what happens between its two marks does. -/
theorem World.Undisturbed.refresh (due : world.refreshable? id = some binding)
    (between : Undisturbed (world.beginRefresh id binding.widget) after)
    (outcome : Except UiError Unit) :
    Undisturbed world ((after.endRefresh id outcome).release world.pins) := by
  have ended : Undisturbed world
    { after.endRefresh id outcome with pins := world.pins } := {
    exhausted := (endRefresh_exhausted after id outcome).trans between.exhausted
    bindingCount := by
      rw [endRefresh_bindings]
      exact (Store.size_update ..).trans
        (between.bindingCount.trans (Store.size_update ..))
    widgets := fun other => by
      have kept := widget_mark after id other false
      rw [binding?, ← endRefresh_bindings after id outcome] at kept
      exact kept.trans ((between.widgets other).trans (widget_mark _ id other true))
    busy := SameBusy.endRefresh due between.busy outcome
    pinned := fun _ kept => kept }
  exact Chains.trans ended (AllowsSlight.slight (slight_sweep _))

/-- Refreshing a live property does the same with both, if they do the same
while it is refreshed. -/
theorem agree_refresh
    (inner :
      ∀ binding,
        world.refreshable? id = some binding →
        Deliver.Agree (world.beginRefresh id binding.widget) first second) :
    id.refresh second world = id.refresh first world ∧
    Undisturbed world (id.refresh first world).2 := by
  cases due : world.refreshable? id with
  | none =>
    obtain ⟨after, minor, run⟩ := refresh_of_none due
    rw [run, run]
    exact ⟨rfl, AllowsMinor.minor minor⟩
  | some binding =>
    have gives :
        Attempt.Agree (world.beginRefresh id binding.widget)
          (binding.give first id) (binding.give second id) :=
      .bind (.within (.slight (slight_evaluate id))) fun _ =>
        agree_applyProperty (inner binding due) _ _ _
    obtain ⟨same, between⟩ := gives _ (Chains.refl _)
    rw [refresh_apply due, refresh_apply due, same]
    dsimp only
    exact ⟨rfl, .refresh due between _⟩

end Refreshing

end LiveMarkup
