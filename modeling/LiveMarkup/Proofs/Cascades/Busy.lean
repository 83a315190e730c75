import LiveMarkup.Proofs.World.Grafting
import LiveMarkup.Proofs.World.Outcomes

/-!
# Busy live properties

A live property is busy while it is refreshed.  However callbacks nest in an
operation, in the end the same live properties are busy as in the beginning.  So
none is when no callback is running.
-/

namespace LiveMarkup

variable {σ : Type} {world : World σ} {deliver : Deliver σ} {id : BindingId}
  {binding : LiveBinding}

/-! ## One refresh -/

namespace World

/-- A live property that would be evaluated now if it were to be refreshed: its
widget exists, and it is not being refreshed already. -/
def refreshable? (world : World σ) (id : BindingId) : Option LiveBinding :=
  (world.binding? id).filter fun binding =>
    world.existing (.widget binding.widget) && !binding.busy

theorem refreshable?_eq_some :
    world.refreshable? id = some binding ↔
      world.binding? id = some binding ∧
      world.existing (.widget binding.widget) ∧ binding.busy = false := by
  simp [refreshable?, Option.filter_eq_some_iff]

/-- The world in which a live property is evaluated and given to its widget. -/
def beginRefresh (world : World σ) (id : BindingId) (widget : WidgetId) : World σ :=
  (world.pin [.binding id, .widget widget]).updateBinding id
    ({ · with busy := true })

/-- The world after that, when an error has been reported. -/
def endRefresh (world : World σ) (id : BindingId)
    (outcome : Except UiError Unit) : World σ :=
  let unmarked := world.updateBinding id ({ · with busy := false })
  match outcome with
  | .ok () => unmarked
  | .error error => { unmarked with errors := unmarked.errors ++ [error] }

theorem endRefresh_bindings (world : World σ) (id : BindingId)
    (outcome : Except UiError Unit) :
    (world.endRefresh id outcome).bindings =
      (world.updateBinding id ({ · with busy := false })).bindings := by
  cases outcome <;> rfl

theorem endRefresh_exhausted (world : World σ) (id : BindingId)
    (outcome : Except UiError Unit) :
    (world.endRefresh id outcome).exhausted = world.exhausted := by
  cases outcome <;> rfl

end World

/-- Evaluate a live property and give it to its widget. -/
def LiveBinding.give (deliver : Deliver σ) (binding : LiveBinding)
    (id : BindingId) : Attempt σ Unit :=
  do
  applyProperty deliver binding.widget binding.key (← id.evaluate)

/-- A refresh that is due runs between two marks: the live property is busy
meanwhile, and it is not afterwards. -/
theorem refresh_apply (due : world.refreshable? id = some binding) :
    id.refresh deliver world =
      let ran := (binding.give deliver id).run
        (world.beginRefresh id binding.widget)
      ((), (ran.2.endRefresh id ran.1).release world.pins) := by
  obtain ⟨found, present, idle⟩ := World.refreshable?_eq_some.mp due
  have evaluates : id.refresh deliver world =
    keeping [.binding id, .widget binding.widget] (do
      id.setBusy true
      let outcome ← (binding.give deliver id).run
      id.setBusy false
      match outcome with
      | .ok () => pure ()
      | .error error => report error) world := by
    simp only [BindingId.refresh, Action.bind_apply, Action.get_apply, found,
      World.existingWidget?, present, idle, if_true,
      Bool.false_eq_true, if_false]
    rfl
  rw [evaluates, World.keeping_apply]
  simp only [Action.bind_apply, BindingId.setBusy, Action.modify_apply]
  rw [← World.beginRefresh]
  cases ((binding.give deliver id).run
    (world.beginRefresh id binding.widget)).1 <;> rfl

/-- A live property that is not evaluated changes little, and causes no
callbacks. -/
theorem refresh_of_none (due : world.refreshable? id = none) :
    ∃ after,
      World.Minor world after ∧
      ∀ deliver : Deliver σ, id.refresh deliver world = ((), after) := by
  simp only [World.refreshable?] at due
  cases found : world.binding? id with
  | none =>
    refine ⟨world, .refl world, fun deliver => ?_⟩
    simp only [BindingId.refresh, Action.bind_apply, Action.get_apply, found,
      Action.pure_apply]
  | some binding =>
    cases present : world.existing (.widget binding.widget) with
    | false =>
      refine ⟨_, (world.slight_cancelBinding id).toMinor, fun deliver => ?_⟩
      simp only [BindingId.refresh, Action.bind_apply, Action.get_apply, found,
        World.existingWidget?, present]
      rfl
    | true =>
      have busy : binding.busy = true := by
        simpa [found, Option.filter, present] using due
      refine ⟨world, .refl world, fun deliver => ?_⟩
      simp only [BindingId.refresh, Action.bind_apply, Action.get_apply, found,
        World.existingWidget?, present, busy, if_true, Action.pure_apply]

/-! ## The same live properties are busy -/

namespace World

/-- Whether a live property is being refreshed. -/
def isBusy (world : World σ) (id : BindingId) : Bool :=
  (world.binding? id).any (·.busy)

/-- The same live properties are being refreshed. -/
def SameBusy (world after : World σ) : Prop :=
  ∀ id, after.isBusy id = world.isBusy id

/-- Marking a live property makes that one busy or idle and no other. -/
theorem isBusy_mark (world : World σ) (id other : BindingId) (busy : Bool) :
    (world.updateBinding id ({ · with busy })).isBusy other =
      if id = other then (world.binding? id).isSome && busy
      else world.isBusy other := by
  rw [isBusy, binding?_updateBinding]
  split
  · next same =>
    subst same
    cases world.binding? id <;> rfl
  · rfl

theorem SameBusy.of_bindings {world after : World σ}
    (same : after.bindings = world.bindings) : world.SameBusy after := by
  intro id
  rw [isBusy, isBusy, binding?, binding?, same]

instance : AllowsLoading (SameBusy : World σ → World σ → Prop) where
  refl _ _ := rfl
  trans left right id := (right id).trans (left id)
  minor minor id := by
    have same := congrArg (Option.any Prod.snd) (minor.bindings id)
    rwa [Option.any_map, Option.any_map] at same
  pins _ _ := .of_bindings rfl
  binding world binding idle id := by
    simp only [isBusy, binding?, Store.get?_add]
    split
    · next new =>
      rw [Option.any_some, idle, Store.get?_of_not_lt (new ▸ Nat.lt_irrefl _),
        Option.any_none]
    · rfl
  handle _ _ := .of_bindings rfl
  updateHandle _ _ _ := .of_bindings rfl
  noteLife _ _ := .of_bindings rfl
  exhausted _ := .of_bindings rfl

/-- A refresh leaves them alone if what happens between its two marks does. -/
theorem SameBusy.endRefresh {after : World σ}
    (due : world.refreshable? id = some binding)
    (between : (world.beginRefresh id binding.widget).SameBusy after)
    (outcome : Except UiError Unit) :
    world.SameBusy (after.endRefresh id outcome) := by
  obtain ⟨found, _, idle⟩ := refreshable?_eq_some.mp due
  have unmarked :
      world.SameBusy (after.updateBinding id ({ · with busy := false })) := by
    intro other
    rw [isBusy_mark]
    split
    · next this =>
      rw [Bool.and_false, isBusy, ← this, found, Option.any_some, idle]
    · next apart =>
      rw [between other, beginRefresh, isBusy_mark, if_neg apart]
      rfl
  exact Chains.trans unmarked (.of_bindings (endRefresh_bindings after id outcome))

theorem sameBusy_release (world : World σ) (pins : List Owned) :
    world.SameBusy (world.release pins) :=
  Chains.trans (AllowsKeeping.pins world pins)
    (AllowsSlight.slight (slight_sweep _))

end World

/-- Who was busy before a refresh is busy after it, and nobody else. -/
theorem sameBusy_refresh (delivers : Deliver.Within World.SameBusy deliver)
    (id : BindingId) : Action.Within World.SameBusy (id.refresh deliver) := by
  intro world
  cases due : world.refreshable? id with
  | none =>
    obtain ⟨after, minor, run⟩ := refresh_of_none due
    rw [run]
    exact AllowsMinor.minor minor
  | some binding =>
    have gives : Attempt.Within World.SameBusy (binding.give deliver id) :=
      .bind (.slight (slight_evaluate id)) fun _ =>
        within_applyProperty (within_notify delivers) _ _ _
    have between := gives (world.beginRefresh id binding.widget)
    rw [refresh_apply due]
    dsimp only
    exact Chains.trans (World.SameBusy.endRefresh due between _)
      (World.sameBusy_release _ _)

/-- Delivering a callback leaves the same live properties busy, if the host does
not change which are. -/
theorem sameBusy_deliver {host : Host σ} (keeps : host.Within World.SameBusy)
    (depth : Nat) (callback : Callback) :
    Action.Within World.SameBusy (host.deliver depth callback) := by
  refine within_deliver ?_ keeps depth callback
  intro _ delivers
  exact sameBusy_refresh fun callback _ => delivers callback

/-! ## From outside of callbacks -/

namespace World

/-- No live property is being refreshed. -/
def Resting (world : World σ) : Prop := ∀ id, world.isBusy id = false

theorem SameBusy.resting {after : World σ} (same : world.SameBusy after)
    (resting : world.Resting) : after.Resting :=
  fun id => (same id).trans (resting id)

/-- A world as the host meets it while no callback is running.  It began without
live properties.  Since then the host loaded and rendered documents and disposed
of them, set properties, changed lists and raised events, one after the other,
however deeply callbacks were nested and whether it succeeded or not. -/
inductive Outside (host : Host σ) : World σ → Prop
  | begin {world : World σ} : world.bindings.size = 0 → Outside host world
  | load {world : World σ} (depth : Nat) (parent : WidgetId) (path : String) :
      Outside host world →
      Outside host ((LiveMarkup.load (host.deliver depth) parent path).run
        world).2
  | render {world : World σ} (depth : Nat) (source : String)
      (controller : Controller) (parent : WidgetId) : Outside host world →
      Outside host
        ((renderSource (host.deliver depth) source controller parent).run
          world).2
  | dispose {world : World σ} (depth : Nat) (handle : HandleId) :
    Outside host world → Outside host (handle.dispose (host.deliver depth) world).2
  | set {world : World σ} (depth : Nat) (bag : BagId) (name : String)
      (value : Value) : Outside host world →
      Outside host (bag.set (host.deliver depth) name value world).2
  | write {world : World σ} (depth : Nat) (widget : WidgetId) (name : String)
      (value : Value) : Outside host world →
      Outside host ((widget.write (host.deliver depth) name value).run world).2
  /-- A list announces that its elements have changed. -/
  | change {world : World σ} (depth : Nat) (list : ListId)
      (change : ListChange) : Outside host world →
      Outside host (list.emit (host.deliver depth) change world).2
  /-- A widget raises an event. -/
  | raise {world : World σ} (depth : Nat) (widget : WidgetId) (name : String)
      (arguments : List Value) : Outside host world →
      Outside host ((widget.emit (host.deliver depth) name arguments).run
        world).2
  /-- The host does what it does when it is called. -/
  | respond {world : World σ} (depth : Nat) (call : HostCall) :
      Outside host world →
      Outside host (host.respond (host.deliver depth) call world).2
  /-- The host does something else, and refreshes no live property by it. -/
  | other {world after : World σ} :
      Outside host world → world.SameBusy after → Outside host after

/-- From outside of callbacks no live property is busy. -/
theorem Outside.resting {host : Host σ} (keeps : host.Within SameBusy)
    (outside : Outside host world) : world.Resting := by
  have delivers :
      ∀ depth callback, Action.Within SameBusy (host.deliver depth callback) :=
    sameBusy_deliver keeps
  have most : ∀ depth, Deliver.Within SameBusy (host.deliver depth) :=
    fun depth callback _ => delivers depth callback
  induction outside with
  | @begin world none =>
    intro id
    rw [isBusy, binding?,
      Store.get?_of_not_lt (by rw [none]; exact Nat.not_lt_zero _),
      Option.any_none]
  | load depth parent path _ hypothesis =>
    exact SameBusy.resting (within_load (delivers depth) parent path _) hypothesis
  | render depth source controller parent _ hypothesis =>
    exact SameBusy.resting
      (within_renderSource (delivers depth) source controller parent _)
      hypothesis
  | dispose depth handle _ hypothesis =>
    exact SameBusy.resting (within_dispose (delivers depth) handle _) hypothesis
  | set depth bag name value _ hypothesis =>
    exact SameBusy.resting
      (within_set (within_notify (most depth)) bag name value _) hypothesis
  | write depth widget name value _ hypothesis =>
    exact SameBusy.resting (within_write
      (within_notify (most depth) (.widget widget)) name value _) hypothesis
  | change depth list change _ hypothesis =>
    exact SameBusy.resting (within_change (most depth) list change _) hypothesis
  | raise depth widget name arguments _ hypothesis =>
    exact SameBusy.resting (within_emit (most depth) widget name arguments _)
      hypothesis
  | respond depth call _ hypothesis =>
    exact SameBusy.resting (keeps _ (delivers depth) call _) hypothesis
  | other _ same hypothesis => exact same.resting hypothesis

end World

end LiveMarkup
