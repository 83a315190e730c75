import LiveMarkup.Proofs.Bindings.Hosts
import LiveMarkup.Proofs.Traces.Quiet

/-!
# Callbacks while rendering

While rendering sets properties, live properties that are new hear of it, and
handlers of controllers run.  If these do nothing, all callbacks are quiet,
however deeply they nest.
-/

namespace LiveMarkup

/-- A host whose controllers do nothing when they are called. -/
structure Host.Inert {σ : Type} (host : Host σ) : Prop where
  handler : ∀ deliver controller name arguments world,
    host.respond deliver (.handler controller name arguments) world = ((), world)
  created : ∀ deliver controller handle world,
    host.respond deliver (.created controller handle) world = ((), world)
  disposed : ∀ deliver controller world,
    host.respond deliver (.disposed controller) world = ((), world)

theorem Host.silent_inert {σ : Type} : (Host.silent : Host σ).Inert :=
  ⟨fun _ _ _ _ _ => rfl, fun _ _ _ _ => rfl, fun _ _ _ => rfl⟩

namespace World

variable {σ : Type} {start world middle after : World σ} {host : WidgetId}
  {deliver : Deliver σ}

/-- Callbacks that rendering may cause are quiet. -/
structure Serene (host : WidgetId) (start : World σ) (deliver : Deliver σ) :
    Prop where
  binding : ∀ world id generation property changed,
      Good host start world → start.bindings.size ≤ id.index →
      Accounted start world [] (.binding id) →
      Quiet host start world
        (deliver (.property (.binding id generation property) changed) world).2
  event : ∀ world controller name arguments,
      Good host start world →
      Quiet host start world
        (deliver (.event (.controller controller name) arguments) world).2
  created : ∀ world controller handle, Good host start world →
    Quiet host start world (deliver (.created controller handle) world).2
  disposed : ∀ world controller, Good host start world →
    Quiet host start world (deliver (.disposed controller) world).2

/-! ## Running callbacks -/

/-- A callback that is quiet whenever it runs, and keeps no loop and no item. -/
structure Soft (host : WidgetId) (start world : World σ) (deliver : Deliver σ)
    (callback : Callback) : Prop where
  quiet : ∀ later, Calm world later → Good host start later →
    Quiet host start later (deliver callback later).2
  owns : ∀ other later : World σ, callback.owns other = callback.owns later
  plain : ∀ thing ∈ callback.owns world, ¬ thing.Repeats

theorem Soft.later {callback : Callback}
    (soft : Soft host start world deliver callback) (calm : Calm world after) :
    Soft host start after deliver callback := by
  refine ⟨?_, soft.owns, soft.owns world after ▸ soft.plain⟩
  intro later next good
  exact soft.quiet later (calm.trans next) good

/-- Listeners that each keep a good world good do so one after the other. -/
theorem runEach_soft (callbacks : List Callback) (pins : List Owned)
    (world : World σ)
    (soft : ∀ callback ∈ callbacks, Soft host start world deliver callback)
    (good : Good host start world)
    (pinned : world.pins = callbacks.flatMap (·.owns world) ++ pins)
    (kept : ∀ thing ∈ start.pins, thing ∈ pins) :
    Calm world (runEach deliver callbacks world).2 ∧
    Good host start (runEach deliver callbacks world).2 ∧
    (runEach deliver callbacks world).2.pins = pins := by
  induction callbacks generalizing world with
  | nil => exact ⟨.refl world, good, pinned⟩
  | cons callback rest hypothesis =>
    have first := soft callback (List.mem_cons_self ..)
    have ran := first.quiet world (.refl world) good
    -- what the callback has kept is released
    have others :
        ((callback.owns world).foldl List.erase
           (deliver callback world).2.pins) =
          rest.flatMap (·.owns world) ++ pins := by
      rw [ran.pins, pinned, List.flatMap_cons, List.append_assoc, erase_pinned]
    have released : Good host start { (deliver callback world).2 with
        pins := (callback.owns world).foldl List.erase
          (deliver callback world).2.pins } := by
      refine ran.good.sameState rfl rfl (fun thing repeats => ?_)
        fun thing member => ?_
      · change thing ∈ (callback.owns world).foldl List.erase
          (deliver callback world).2.pins ↔ _
        rw [others, ran.pins, pinned, List.flatMap_cons, List.append_assoc]
        simp only [List.mem_append, iff_or_self]
        exact fun member => absurd repeats (first.plain thing member)
      · change thing ∈ (callback.owns world).foldl List.erase
          (deliver callback world).2.pins
        rw [others]
        exact List.mem_append_right _ (kept thing member)
    have swept : ((deliver callback world).2.unpin (callback.owns world)) =
        { (deliver callback world).2 with
          pins := (callback.owns world).foldl List.erase
            (deliver callback world).2.pins } :=
      released.swept.sweep_eq
    have calm :
        Calm world ((deliver callback world).2.unpin
          (callback.owns world)) := by
      rw [swept]
      exact ran.calm.trans (SameState.calm rfl rfl)
    obtain ⟨calmRest, goodRest, pinsRest⟩ := hypothesis
      ((deliver callback world).2.unpin (callback.owns world))
      (fun other member => (soft other (List.mem_cons_of_mem _ member)).later calm)
      (swept ▸ released) (by
        have same :
            rest.flatMap (·.owns
              ((deliver callback world).2.unpin (callback.owns world))) =
              rest.flatMap (·.owns world) := by
          rw [List.flatMap_def, List.flatMap_def]
          exact congrArg List.flatten (List.map_congr_left fun other member =>
            (soft other (List.mem_cons_of_mem _ member)).owns _ _)
        rw [same, ← others]
        exact congrArg World.pins swept)
    exact ⟨calm.trans calmRest, goodRest, pinsRest⟩

/-- Callbacks that are quiet one by one are quiet together. -/
theorem runAll_soft {callbacks : List Callback} (good : Good host start world)
    (soft : ∀ callback ∈ callbacks, Soft host start world deliver callback) :
    Quiet host start world (runAll deliver callbacks world).2 := by
  have plain : ∀ thing ∈ callbacks.flatMap (·.owns world), ¬ thing.Repeats := by
    intro thing member
    obtain ⟨callback, listed, owned⟩ := List.mem_flatMap.mp member
    exact (soft callback listed).plain thing owned
  have calm : Calm world (world.pin (callbacks.flatMap (·.owns world))) :=
    SameState.calm rfl rfl
  have same :
      callbacks.flatMap (·.owns
        (world.pin (callbacks.flatMap (·.owns world)))) =
        callbacks.flatMap (·.owns world) := by
    rw [List.flatMap_def, List.flatMap_def]
    exact congrArg List.flatten (List.map_congr_left fun callback member =>
      (soft callback member).owns _ _)
  obtain ⟨calmAfter, goodAfter, pins⟩ := runEach_soft callbacks world.pins
    (world.pin (callbacks.flatMap (·.owns world)))
      (fun callback member => (soft callback member).later calm)
    (good.pin plain) (by rw [same]; rfl) good.pins
  exact ⟨calm.trans calmAfter, goodAfter, pins⟩

/-- A new widget announces a change of its properties. -/
theorem Serene.notify (serene : Serene host start deliver)
    (good : Good host start world) {widget : WidgetId}
    (new : start.widgets.size ≤ widget.index) (changed : String) :
    Quiet host start world
      (ObjectId.notify deliver (.widget widget) changed world).2 := by
  refine runAll_soft good fun callback member => ?_
  obtain ⟨listener, listens, rfl⟩ := List.mem_map.mp member
  rw [propertyListeners_eq] at listens
  obtain ⟨entry, registered, rfl⟩ := List.mem_map.mp listens
  have first : (start.listenersAt (start.announcer (.widget widget))).next = 0 := by
    change (start.widget widget).listeners.next = 0
    rw [widget_of_not_lt (Nat.not_lt.mpr new)]
    rfl
  obtain ⟨id, binding, object, generation, property, same, newBinding, found,
    recorded, _⟩ :=
    good.additions.listeners.heard (.inr widget) entry registered
      (Nat.le_trans (Nat.le_of_eq first) (Nat.zero_le _))
  have accounted := good.additions.listeners.accounted id binding newBinding found
    (List.ne_nil_of_mem recorded)
  rw [same]
  exact ⟨fun later calm good =>
    serene.binding later id generation property changed good newBinding
    (calm.accounted accounted), fun _ _ => rfl, fun thing member => by
      cases List.mem_singleton.mp member
      exact not_false⟩

/-! ## Writing properties -/

theorem Good.record (good : Good host start world) (call : ToolkitCall) :
    Quiet host start world (world.record call) :=
  good.quiet rfl rfl rfl

theorem Good.noteLife (good : Good host start world) (event : LifeEvent) :
    Quiet host start world (world.noteLife event) :=
  good.quiet rfl rfl rfl

theorem Good.noteReady (good : Good host start world) (widget : WidgetId) :
    Quiet host start world (world.noteReady widget) :=
  good.quiet rfl rfl rfl

/-- The content of a new widget is changed. -/
theorem Good.updateWidget {id : WidgetId} {change : Widget → Widget}
    (good : Good host start world) (writes : WritesWidget world id change)
    (tree :
      ∀ old,
        (change old).children = old.children ∧
        (change old).parent = old.parent ∧
        (change old).connections = old.connections) :
    Quiet host start world (world.updateWidget id change) := by
  have calm : Calm world (world.updateWidget id change) := by
    refine { widgetCount := Store.size_update .., tree := fun other => ?_ }
    refine ⟨?_, ?_, ?_⟩
    · exact widget_project world id other change Widget.children
        fun old => (tree old).1
    · exact widget_project world id other change Widget.parent
        fun old => (tree old).2.1
    · exact widget_project world id other change Widget.connections
        fun old => (tree old).2.2
  refine calm.quiet good ?_ (writes.alters.wired good.additions.wired) ?_ rfl
  · exact writes.alters.sound good.additions.sound
  · refine good.additions.listeners.same writes.alters.listeners rfl ?_
      (fun _ => calm.accounted)
    intro _ _ _ object _ _
    exact calm.announcer object

theorem Serene.write (serene : Serene host start deliver)
    (good : Good host start world) {widget : WidgetId}
    (new : start.widgets.size ≤ widget.index) (name : String) {value : Value}
    (known : value.Known world world.loaded) :
    Quiet host start world ((widget.write deliver name value).run world).2 := by
  rw [WidgetId.write_run]
  cases found : (world.widget widget).cls.property? name with
  | none => exact .refl good
  | some property =>
    have written :=
      good.updateWidget (@writesWidget_assign _ _ widget _ _
        (property?_mem found) known) fun _ => ⟨rfl, rfl, rfl⟩
    simp only
    split
    · exact written
    · exact written.trans (serene.notify written.good new property.name)

/-- Setting a property of a new widget leaves nothing but properties changed. -/
theorem Serene.setProperty (serene : Serene host start deliver)
    (good : Good host start world) {widget : WidgetId}
    (new : start.widgets.size ≤ widget.index) (name : String) {value : Value}
    (known : value.Known world world.loaded) :
    Quiet host start world
      ((Toolkit.setProperty deliver widget name value).run world).2 := by
  have noted := good.record (.set widget name (world.shown value))
  have run : (Toolkit.setProperty deliver widget name value).run world =
        (widget.write deliver name value).run
          (world.record (.set widget name (world.shown value))) := by
    rw [Toolkit.setProperty, Attempt.bind_run, Attempt.modifyThe_run]
  rw [run]
  exact noted.trans (serene.write noted.good new name
    (Value.Known.mono noted.calm.fits noted.calm.loaded value known))

theorem Good.overrideStyle (good : Good host start world) (widget : WidgetId)
    (key : String) (kind : StyleKind) (value : Value) :
    Quiet host start world (widget.overrideStyle key kind value world).2 := by
  have keeps :
      ∀ {β : Type} (project : Widget → β) (old : Widget)
          (first second : Widget),
        project first = project old → project second = project old →
        project (if old.overrides.any (·.key == key) then first else second) =
          project old := by
    intro β project old first second left right
    split
    · exact left
    · exact right
  refine good.updateWidget
    (writesWidget_sameFields widget (fun old => ?_) (fun old => ?_) fun old =>
      ?_) fun old => ⟨?_, ?_, ?_⟩
  all_goals exact keeps _ old _ _ rfl rfl

/-- Style entries on a widget leave nothing but properties changed. -/
theorem Good.applyOverrides (widget : WidgetId)
    (entries : List (String × Value)) (world : World σ)
    (good : Good host start world) :
    Quiet host start world ((applyOverrides widget entries).run world).2 := by
  induction entries generalizing world with
  | nil => exact .refl good
  | cons entry rest hypothesis =>
    obtain ⟨key, value⟩ := entry
    unfold LiveMarkup.applyOverrides
    rw [Attempt.bind_run, Attempt.getThe_run]
    cases found : (world.widget widget).cls.styleKind? key with
    | none =>
      simp only [found]
      exact .refl good
    | some kind =>
      simp only [found]
      have noted := good.record (.style widget key kind (world.shown value))
      have styled := noted.good.overrideStyle widget key kind value
      exact (noted.trans styled).trans (hypothesis _ styled.good)

/-- A property of a new widget is set, or the attempt fails. -/
theorem Serene.applyProperty (serene : Serene host start deliver)
    (good : Good host start world) {widget : WidgetId}
    (new : start.widgets.size ≤ widget.index) (key : String) {value : Value}
    (known : value.Known world world.loaded) :
    Quiet host start world
      ((applyProperty deliver widget key value).run world).2 := by
  unfold LiveMarkup.applyProperty
  cases style : isStyleKey key with
  | true =>
    cases value with
    | map entries =>
      simp only [if_true]
      exact good.applyOverrides widget entries world
    | _ =>
      simp only [if_true]
      exact .refl good
  | false =>
    cases value with
    | map entries =>
      simp only [if_false, Bool.false_eq_true]
      have noted := good.record (.get widget key)
      obtain ⟨reads, knownOld⟩ :=
        watches_readProperty noted.good.additions.sound widget key
      have read :=
        noted.trans (noted.good.watches reads fun id none => by cases none)
      refine Quiet.bind read fun old gave => ?_
      have knownNew :=
        Value.EntriesKnown.mono read.calm.fits read.calm.loaded _ known
      cases old with
      | map entriesOld =>
        exact serene.setProperty read.good new key
          (Value.entriesKnown_mergeEntries (knownOld _ gave) knownNew)
      | _ =>
        exact @Serene.setProperty _ _ _ _ _ serene read.good _ new key
          (.map entries) knownNew
    | _ =>
      simp only [if_false, Bool.false_eq_true]
      exact serene.setProperty good new key known

/-! ## Live properties -/

/-- A new live property that is on record is refreshed. -/
theorem Serene.refresh (serene : Serene host start deliver)
    (good : Good host start world) {id : BindingId}
    (new : start.bindings.size ≤ id.index)
    (accounted : Accounted start world [] (.binding id)) :
    Quiet host start world (id.refresh deliver world).2 := by
  unfold BindingId.refresh
  rw [Action.bind_apply, Action.get_apply]
  cases found : world.binding? id with
  | none => exact .refl good
  | some binding =>
    simp only
    cases existing : world.existingWidget? binding.widget with
    | none => exact good.cancelBinding new
    | some widget =>
      simp only
      have same : widget = binding.widget := by
        unfold World.existingWidget? at existing
        split at existing <;> cases existing
        rfl
      have newWidget : start.widgets.size ≤ widget.index :=
        same ▸ good.additions.listeners.widgets id binding new found
      cases busy : binding.busy with
      | true => exact .refl good
      | false =>
        simp only [Bool.false_eq_true, if_false]
        refine Quiet.keeping good (fun thing member => ?_) fun pinned => ?_
        · rcases List.mem_cons.mp member with rfl | rest
          · exact not_false
          · cases List.mem_singleton.mp rest
            exact not_false
        · have calm : Calm world (world.pin [.binding id, .widget widget]) :=
            SameState.calm rfl rfl
          have begun :
              Quiet host start _
                (World.updateBinding _ id ({ · with busy := true })) :=
            pinned.updateBinding (renews_busy true)
          obtain ⟨evaluated, known⟩ := begun.good.evaluate new
            (begun.calm.accounted (calm.accounted accounted))
          have applied : Quiet host start _ ((id.evaluate >>= fun value =>
              LiveMarkup.applyProperty deliver widget binding.key value).run
                _).2 := evaluated.bind
            fun value gave => serene.applyProperty evaluated.good newWidget
              binding.key (known value gave)
          have ended :
              Quiet host start _
                (World.updateBinding _ id ({ · with busy := false })) :=
            applied.good.updateBinding (renews_busy false)
          have whole := (begun.trans applied).trans ended
          have marked :
              (id.setBusy true : Action σ Unit)
                (world.pin [.binding id, .widget widget]) =
                ((), (world.pin [.binding id, .widget widget]).updateBinding id
                   ({ · with busy := true })) :=
            rfl
          rw [Action.bind_apply, marked, Action.bind_apply]
          revert whole
          rcases (do
              LiveMarkup.applyProperty deliver widget binding.key
                (← id.evaluate) : Attempt σ Unit).run
            ((world.pin [.binding id, .widget widget]).updateBinding id
              ({ · with busy := true })) with ⟨outcome, middle⟩
          intro whole
          cases outcome with
          | ok => exact whole
          | error error => exact whole.trans (whole.good.quiet rfl rfl rfl)

/-- However deeply callbacks nest, the ones that rendering causes are quiet. -/
theorem serene_deliver {program : Host σ} (inert : program.Inert) (depth : Nat) :
    Serene host start (program.deliver depth) := by
  induction depth with
  | zero =>
    have dropped : ∀ world callback, Good host start world →
        Quiet host start world (program.deliver 0 callback world).2 :=
      fun world callback good => good.quiet rfl rfl rfl
    exact ⟨fun world _ _ _ _ good _ _ => dropped world _ good,
      fun world _ _ _ good => dropped world _ good,
      fun world _ _ good => dropped world _ good,
      fun world _ good => dropped world _ good⟩
  | succ depth hypothesis =>
    refine ⟨fun world id generation property changed good new accounted => ?_,
      fun world controller name arguments good => ?_,
      fun world controller handle good => ?_, fun world controller good => ?_⟩
    · rw [Host.deliver, run_binding]
      split
      · exact hypothesis.refresh good new accounted
      · exact .refl good
    · rw [Host.deliver, Host.run]
      split
      · rw [inert.handler]
        exact .refl good
      · exact .refl good
    · rw [Host.deliver, Host.run]
      split
      · rw [inert.created]
        exact .refl good
      · exact .refl good
    · rw [Host.deliver, Host.run]
      split
      · rw [inert.disposed]
        exact .refl good
      · exact .refl good

end World

end LiveMarkup
