import LiveMarkup.Proofs.Listening.Heeding

/-!
# Announcements that a host only looks on at

A host that is told of a changed property and only keeps its own state up to
date leaves it to the live properties to act.  Then nothing is made, the tree
and the documents are as they were, and so is what bags hold.
-/

namespace LiveMarkup

variable {σ α : Type}

open World (Heeds Attentive)

namespace World

variable {world middle after : World σ}

/-! ## What is upheld -/

/-- Apart from what widgets show, and what live properties have read, everything
is as it was. -/
structure Upholds (world after : World σ) : Prop where
  stays : world.Stays after
  values : ∀ id, (after.bag id).values = (world.bag id).values
  topControllers : after.topControllers = world.topControllers
  controllers : after.controllers = world.controllers

theorem Upholds.refl (world : World σ) : world.Upholds world :=
  ⟨.refl world, fun _ => rfl, rfl, rfl⟩

theorem Upholds.trans (left : world.Upholds middle) (right : middle.Upholds after) :
    world.Upholds after where
  stays := left.stays.trans right.stays
  values id := (right.values id).trans (left.values id)
  topControllers := right.topControllers.trans left.topControllers
  controllers := right.controllers.trans left.controllers

theorem Cuts.upholds {lost : BindingId → Prop} (cuts : Cuts lost world after) :
    world.Upholds after where
  stays := cuts.stays
  values := cuts.content.values
  topControllers := by rw [cuts.rest]
  controllers := by rw [cuts.rest]

/-- What changes only in records upholds the state, if nothing is held that was
not. -/
theorem SameState.upholds (same : SameState world after)
    (held : after.held = world.held)
    (topControllers : after.topControllers = world.topControllers) :
    world.Upholds after where
  stays := same.stays held
  values id := by
    rw [same]
    rfl
  topControllers
  controllers := by rw [same]

theorem Watches.upholds {watcher : Option BindingId}
    (watches : Watches watcher world after) : world.Upholds after where
  stays := watches.stays
  values := watches.content.values
  topControllers := by rw [watches.rest]
  controllers := by rw [watches.rest]

theorem upholds_updateBinding (world : World σ) (id : BindingId)
    {change : LiveBinding → LiveBinding}
    (continues : ∀ binding : LiveBinding, binding.Continues (change binding)) :
    world.Upholds (world.updateBinding id change) :=
  ⟨stays_updateBinding world id continues, fun _ => rfl, rfl, rfl⟩

theorem upholds_updateWidget {id : WidgetId} {change : Widget → Widget}
    (writes : WritesWidget world id change)
    (children : ∀ old, (change old).children = old.children)
    (parent : ∀ old, (change old).parent = old.parent) :
    world.Upholds (world.updateWidget id change) :=
  ⟨stays_updateWidget writes children parent, fun _ => rfl, rfl, rfl⟩

theorem Attentive.upholds_sweep (attentive : Attentive world) :
    world.Upholds world.sweep :=
  Cuts.upholds attentive.wired.sweeps_sweep

/-- An operation with which everything is upheld, and live properties go on
listening. -/
structure Observed (world after : World σ) : Prop where
  heeds : world.Heeds after
  upholds : world.Upholds after
  pins : after.pins = world.pins

theorem Observed.refl (attentive : Attentive world) : world.Observed world :=
  ⟨.refl attentive, .refl world, rfl⟩

theorem Observed.trans (left : world.Observed middle)
    (right : middle.Observed after) : world.Observed after :=
  ⟨left.heeds.trans right.heeds, left.upholds.trans right.upholds,
    right.pins.trans left.pins⟩

theorem SameState.observed (same : SameState world after)
    (attentive : Attentive world) (held : after.held = world.held)
    (topControllers : after.topControllers = world.topControllers)
    (pins : after.pins = world.pins) : world.Observed after :=
  ⟨same.heeds attentive, same.upholds held topControllers, pins⟩

theorem Attentive.pins_release (attentive : Attentive world) (pins : List Owned) :
    (world.release pins).pins = pins := by
  have same : SameState world { world with pins } := rfl
  exact pins_sweep (same.heeds attentive).attentive.wired

theorem Attentive.upholds_release (attentive : Attentive world)
    (pins : List Owned) : world.Upholds (world.release pins) := by
  have same : SameState world { world with pins } := rfl
  exact (same.upholds rfl rfl).trans (same.heeds attentive).attentive.upholds_sweep

/-! ## Telling listeners -/

/-- A way to tell listeners of changed properties with which everything is
upheld. -/
def Observing (deliver : Deliver σ) : Prop :=
  ∀ listener changed world, Attentive world →
    world.Observed (deliver (.property listener changed) world).2

variable {deliver : Deliver σ}

/-- Callbacks that tell listeners of a changed property. -/
def tells (changed : String) (listeners : List PropertyListener) : List Callback :=
  listeners.map (Callback.property · changed)

theorem owns_tells (world other : World σ) (changed : String)
    (listeners : List PropertyListener) :
    (tells changed listeners).flatMap (·.owns world) =
      (tells changed listeners).flatMap (·.owns other) := by
  refine List.flatMap_congr fun callback member => ?_
  obtain ⟨listener, _, rfl⟩ := List.mem_map.mp member
  rfl

/-- What happens when one listener is told and no longer kept. -/
theorem Observing.step (observing : Observing deliver) (attentive : Attentive world)
    (listener : PropertyListener) (changed : String) {pins : List Owned}
    (pinned : world.pins = listener.owns ++ pins) :
    let after := (deliver (.property listener changed) world).2.unpin listener.owns
    world.Heeds after ∧ world.Upholds after ∧ after.pins = pins := by
  have told := observing listener changed world attentive
  generalize (deliver (.property listener changed) world).2 = middle at told
  -- to keep something no longer is to go back to the pins that are left
  refine ⟨told.heeds.trans (told.heeds.attentive.unpin _),
    told.upholds.trans (told.heeds.attentive.upholds_release _),
    (told.heeds.attentive.pins_release
      (listener.owns.foldl List.erase middle.pins)).trans ?_⟩
  rw [told.pins, pinned, erase_pinned]

/-- Listeners that are told one after the other uphold everything, and what is
held for them is given up on the way. -/
theorem Observing.runEach (observing : Observing deliver) (changed : String)
    (listeners : List PropertyListener) (attentive : Attentive world)
    {pins : List Owned}
    (pinned : world.pins = (tells changed listeners).flatMap
    (·.owns world) ++ pins) :
    let after := (runEach deliver (tells changed listeners) world).2
    world.Heeds after ∧ world.Upholds after ∧ after.pins = pins := by
  induction listeners generalizing world with
  | nil => exact ⟨.refl attentive, .refl world, pinned⟩
  | cons listener rest hypothesis =>
    rw [tells, List.map_cons, List.flatMap_cons, List.append_assoc] at pinned
    obtain ⟨heeds, upholds, left⟩ :=
      observing.step attentive listener changed pinned
    rw [← tells, owns_tells world _ changed rest] at left
    obtain ⟨heedsRest, upholdsRest, pins⟩ := hypothesis heeds.attentive left
    exact ⟨heeds.trans heedsRest, upholds.trans upholdsRest, pins⟩

/-- At the end nothing is held for them any more. -/
theorem Observing.runAll (observing : Observing deliver) (changed : String)
    (listeners : List PropertyListener) (attentive : Attentive world) :
    world.Observed (runAll deliver (tells changed listeners) world).2 := by
  have same :
      SameState world (world.pin
        ((tells changed listeners).flatMap (·.owns world))) :=
    rfl
  have pinned :
      (world.pin ((tells changed listeners).flatMap (·.owns world))).pins =
        (tells changed listeners).flatMap (·.owns world) ++ world.pins :=
    rfl
  obtain ⟨heeds, upholds, pins⟩ :=
    observing.runEach changed listeners (same.heeds attentive).attentive pinned
  exact ⟨(same.heeds attentive).trans heeds,
    (same.upholds rfl rfl).trans upholds, pins⟩

theorem Observing.notify (observing : Observing deliver)
    (attentive : Attentive world) (object : ObjectId) (changed : String) :
    world.Observed (object.notify deliver changed world).2 :=
  observing.runAll changed (world.propertyListeners object).toList attentive

/-! ## Giving values -/

/-- What a property of a widget holds is replaced. -/
theorem Attentive.observed_assign (attentive : Attentive world)
    {widget : WidgetId} {name : String} {property : PropertySpec}
    (found : (world.widget widget).cls.property? name = some property)
    {value : Value} (known : value.Known world world.loaded) :
    world.Observed (world.updateWidget widget
      ({ · with fields :=
        (world.assignField (world.widget widget).fields property value).1
        })) := by
  have writes := writesWidget_assign (property?_mem found) known
  exact ⟨writes.alters.heeds attentive,
    upholds_updateWidget writes (fun _ => rfl) fun _ => rfl, rfl⟩

/-- Writing a property upholds everything apart from what widgets show. -/
theorem Observing.write (observing : Observing deliver)
    (attentive : Attentive world) (widget : WidgetId) (name : String)
    {value : Value} (known : value.Known world world.loaded) :
    world.Observed ((widget.write deliver name value).run world).2 := by
  rw [WidgetId.write_run]
  cases found : (world.widget widget).cls.property? name with
  | none => exact .refl attentive
  | some property =>
    have written := attentive.observed_assign found known
    dsimp only
    split
    · exact written
    · exact written.trans
        (observing.notify written.heeds.attentive (.widget widget)
          property.name)

theorem Attentive.observed_record (attentive : Attentive world)
    (call : ToolkitCall) : world.Observed (world.record call) :=
  (show SameState world (world.record call) from rfl).observed attentive rfl rfl rfl

/-- So does a style override. -/
theorem Attentive.observed_overrideStyle (attentive : Attentive world)
    (widget : WidgetId) (key : String) (kind : StyleKind) (value : Value) :
    world.Observed ((Toolkit.overrideStyle widget key kind value :
      Action σ Unit) world).2 := by
  have noted :=
    attentive.observed_record (.style widget key kind (world.shown value))
  refine ⟨attentive.overrideStyle widget key kind value,
    noted.upholds.trans
    (upholds_updateWidget
      (writesWidget_sameFields widget (fun old => ?_) (fun old => ?_) fun old =>
        ?_) (fun old => ?_) fun old => ?_), rfl⟩ <;> dsimp only <;>
    split <;> rfl

/-- And so do overrides up to the first unknown key. -/
theorem Attentive.observed_applyOverrides (attentive : Attentive world)
    (widget : WidgetId) (entries : List (String × Value)) :
    world.Observed ((LiveMarkup.applyOverrides widget entries :
      Attempt σ Unit).run world).2 := by
  induction entries generalizing world with
  | nil => exact .refl attentive
  | cons entry rest hypothesis =>
    unfold LiveMarkup.applyOverrides
    rw [Attempt.bind_run, Attempt.getThe_run]
    dsimp only
    split
    · exact .refl attentive
    · next kind _ =>
      have overridden :=
        attentive.observed_overrideStyle widget entry.1 kind entry.2
      rw [Attempt.bind_run, Attempt.lift_run]
      exact overridden.trans (hypothesis overridden.heeds.attentive)

/-- Reading a property upholds everything. -/
theorem Attentive.observed_getProperty (attentive : Attentive world)
    (widget : WidgetId) (name : String) :
    world.Observed ((Toolkit.getProperty widget name : Attempt σ Value).run
      world).2 := by
  have noted := attentive.observed_record (.get widget name)
  obtain ⟨reads, _⟩ := watches_readProperty noted.heeds.attentive.sound widget name
  rw [Toolkit.getProperty_run]
  refine noted.trans ?_
  refine ⟨noted.heeds.attentive.watches reads nofun, reads.upholds, ?_⟩
  rw [reads.rest]

/-- Setting a property upholds everything apart from what widgets show. -/
theorem Observing.setProperty (observing : Observing deliver)
    (attentive : Attentive world) (widget : WidgetId) (name : String)
    {value : Value} (known : value.Known world world.loaded) :
    world.Observed ((Toolkit.setProperty deliver widget name value).run
      world).2 := by
  have noted := attentive.observed_record (.set widget name (world.shown value))
  rw [Toolkit.setProperty_run]
  exact noted.trans (observing.write noted.heeds.attentive widget name
    (noted.heeds.value known))

/-- So does applying it, whichever way it is applied. -/
theorem Observing.applyProperty (observing : Observing deliver)
    (attentive : Attentive world) (widget : WidgetId) (key : String)
    {value : Value} (known : value.Known world world.loaded) :
    world.Observed ((applyProperty deliver widget key value).run world).2 := by
  unfold LiveMarkup.applyProperty
  split
  · cases value with
    | map entries => exact attentive.observed_applyOverrides widget entries
    | _ => exact .refl attentive
  · cases value with
    | map entries =>
      have read := attentive.observed_getProperty widget key
      have gave := (attentive.getProperty widget key).success
      dsimp only
      rw [Attempt.bind_run]
      rcases ran : (Toolkit.getProperty widget key : Attempt σ Value).run world
        with ⟨outcome, after⟩
      rw [ran] at read
      cases outcome with
      | error error => exact read
      | ok old =>
        have knownOld := (gave old after ran).2
        have knownNew := read.heeds.value known
        cases old with
        | map entriesOld =>
          exact read.trans (observing.setProperty read.heeds.attentive widget key
            (Value.entriesKnown_mergeEntries knownOld knownNew))
        | _ =>
          exact read.trans (observing.setProperty read.heeds.attentive widget
            key knownNew)
    | _ => exact observing.setProperty attentive widget key known

/-! ## Refreshing -/

theorem Attentive.observed_cancelBinding (attentive : Attentive world)
    (id : BindingId) : world.Observed (world.cancelBinding id) :=
  have cuts := attentive.wired.cuts_cancelBinding id
  ⟨attentive.cancelBinding id, cuts.upholds, by rw [cuts.rest]⟩

theorem Attentive.observed_renews (attentive : Attentive world) (id : BindingId)
    {change : LiveBinding → LiveBinding} (renews : Renews change)
    (busy : ∀ binding, (change binding).busy = binding.busy) :
    world.Observed (world.updateBinding id change) :=
  ⟨attentive.renews id renews busy,
    upholds_updateBinding world id renews.continues, rfl⟩

theorem Attentive.observed_renew (attentive : Attentive world) (id : BindingId) :
    world.Observed (id.renew world) :=
  have cancelled := attentive.observed_cancelBinding id
  cancelled.trans (cancelled.heeds.attentive.observed_renews id renews_next
    fun _ => rfl)

/-- Evaluating a live property changes what that one has read, and upholds the
rest. -/
theorem Attentive.observed_evaluation (attentive : Attentive world) {id : BindingId}
    {binding : LiveBinding} (found : world.binding? id = some binding) :
    world.Observed (world.evaluation id binding).2 := by
  have renewed := attentive.observed_renew id
  obtain ⟨_, watches, _, _⟩ := attentive.evaluation found
  refine renewed.trans
    ⟨renewed.heeds.attentive.watches watches fun other same => ?_,
      watches.upholds, by
        rw [watches.rest]⟩
  cases same
  intro other foundAgain slot member
  cases (binding?_renew found).symm.trans foundAgain
  cases member

theorem Attentive.observed_evaluate (attentive : Attentive world) {id : BindingId}
    {binding : LiveBinding} (found : world.binding? id = some binding) :
    world.Observed (id.evaluate.run world).2 := by
  have read := attentive.observed_evaluation found
  rw [evaluate_eq found]
  exact read.trans (read.heeds.attentive.observed_renews id (renews_outcome _)
    fun _ => rfl)

/-- What follows the evaluation of a live property. -/
theorem Observing.given (observing : Observing deliver)
    (attentive : Attentive world) {id : BindingId} {begun : LiveBinding}
    (found : world.binding? id = some begun) (binding : LiveBinding) :
    (id.evaluate.run world).2.Observed
      ((binding.give deliver id).run world).2 := by
  have evaluated := attentive.observed_evaluate found
  have known := (attentive.evaluate found).2
  rw [LiveBinding.give, Attempt.bind_run]
  rcases ran : id.evaluate.run world with ⟨outcome, after⟩
  rw [ran] at evaluated known
  cases outcome with
  | error error => exact .refl evaluated.heeds.attentive
  | ok value =>
    exact observing.applyProperty evaluated.heeds.attentive _ _
      (known value rfl)

/-- What is true of the world in which a live property is evaluated. -/
theorem Attentive.beginRefresh (attentive : Attentive world) {id : BindingId}
    {binding : LiveBinding} (found : world.binding? id = some binding) :
    (world.beginRefresh id binding.widget).Attentive ∧
    world.Upholds (world.beginRefresh id binding.widget) ∧
    (world.beginRefresh id binding.widget).binding? id =
      some { binding with busy := true } :=
  have same :
      SameState world (world.pin [.binding id, .widget binding.widget]) :=
    rfl
  ⟨(same.heeds attentive).attentive.updateBinding id (renews_busy true),
    (same.upholds rfl rfl).trans
    (upholds_updateBinding _ id (renews_busy true).continues),
    beginRefresh_binding? found⟩

/-- The end of a refresh upholds everything. -/
theorem upholds_endRefresh (world : World σ) (id : BindingId)
    (outcome : Except UiError Unit) :
    world.Upholds (world.endRefresh id outcome) := by
  have unmarked := upholds_updateBinding world id (renews_busy false).continues
  cases outcome with
  | ok => exact unmarked
  | error error =>
    exact unmarked.trans
      ((show SameState _ (world.endRefresh id (.error error)) from rfl).upholds
        rfl rfl)

/-- A refresh ends after what it does is over. -/
theorem Observed.release {other : World σ} (heeds : world.Heeds after)
    (upholds : world.Upholds after) (pins : other.pins = world.pins) :
    world.Observed (after.release other.pins) :=
  ⟨heeds.release _, upholds.trans (heeds.attentive.upholds_release _),
    (heeds.attentive.pins_release _).trans pins⟩

/-- A whole refresh does, with all that follows from it. -/
theorem Observing.refresh (observing : Observing deliver)
    (attentive : Attentive world) (id : BindingId) :
    world.Observed (id.refresh deliver world).2 := by
  cases due : world.refreshable? id with
  | some binding =>
    obtain ⟨found, _⟩ := refreshable?_eq_some.mp due
    obtain ⟨begun, upholds, foundBegun⟩ := attentive.beginRefresh found
    have gave : (world.beginRefresh id binding.widget).Observed
        ((binding.give deliver id).run (world.beginRefresh id binding.widget)).2 :=
      (begun.observed_evaluate foundBegun).trans
        (observing.given begun foundBegun binding)
    rw [refresh_apply due]
    dsimp only
    generalize (binding.give deliver id).run
      (world.beginRefresh id binding.widget) = ran at gave
    exact Observed.release (Attentive.endRefresh due gave.heeds ran.1)
      ((upholds.trans gave.upholds).trans (upholds_endRefresh ran.2 id ran.1)) rfl
  | none =>
    rcases refresh_idle deliver due with same | same <;> rw [same]
    · exact .refl attentive
    · exact attentive.observed_cancelBinding id

end World

/-- A host that only keeps its own state up to date when a property has changed
that it listens to. -/
def Host.LooksOn (host : Host σ) : Prop :=
  ∀ deliver number changed world,
    ∃ state, host.respond deliver (.property number changed) world =
    ((), { world with host := state })

/-- With such a host everything is upheld, however deeply callbacks are nested. -/
theorem Host.LooksOn.observing {host : Host σ} (looksOn : host.LooksOn)
    (depth : Nat) : World.Observing (host.deliver depth) := by
  induction depth with
  | zero =>
    exact fun _ _ world attentive =>
      (show World.SameState world { world with exhausted := true }
        from rfl).observed attentive rfl rfl rfl
  | succ depth hypothesis =>
    intro listener changed world attentive
    cases listener with
    | binding id generation property =>
      change world.Observed (host.run (host.deliver depth) _ world).2
      rw [World.run_binding]
      split
      · exact hypothesis.refresh attentive id
      · exact .refl attentive
    | host number =>
      obtain ⟨state, run⟩ := looksOn (host.deliver depth) number changed world
      change world.Observed (host.respond (host.deliver depth) _ world).2
      rw [run]
      exact (show World.SameState world { world with host := state }
        from rfl).observed attentive rfl rfl rfl

theorem Host.silent_looksOn : (Host.silent : Host σ).LooksOn :=
  fun _ _ _ world => ⟨world.host, rfl⟩

end LiveMarkup
