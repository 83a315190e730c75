import LiveMarkup.Proofs.Construction.Trees

/-!
# Connecting signals and becoming ready

The signals of a component are connected in order, and its widget is new: its
handlers are those of its own signals.  When it becomes ready, the handlers of
the signals that mean `ready` run, once each and in order.
-/

namespace LiveMarkup

variable {σ : Type} {note : HostCall → σ → σ} {deliver : Deliver σ}

/-- The calls of handlers when widgets of some components become ready, one
after the other. -/
def readyCallsOf (registry : Registry) (controller : Controller)
    (built : List (WidgetId × Component)) : List HostCall :=
  built.flatMap fun entry => entry.2.readyCalls registry controller

theorem readyCallsOf_append (registry : Registry) (controller : Controller)
    (first second : List (WidgetId × Component)) :
    readyCallsOf registry controller (first ++ second) =
      readyCallsOf registry controller first ++
        readyCallsOf registry controller second :=
  List.flatMap_append ..

theorem readyCallsOf_singleton (registry : Registry) (controller : Controller)
    (widget : WidgetId) (component : Component) :
    readyCallsOf registry controller [(widget, component)] =
      component.readyCalls registry controller :=
  List.flatMap_singleton ..

namespace World

variable {start world middle after : World σ} {moments more : List Moment}
  {handled others : List HostCall}
  {built later : List (WidgetId × Component)}

/-- Some widgets were created, one after the other and no others, while moments
passed and handlers ran. -/
structure Yields (note : HostCall → σ → σ)
    (built : List (WidgetId × Component)) (moments : List Moment)
    (handled : List HostCall) (world after : World σ) :
    Prop extends Passes note moments handled world after where
  widgetCount : after.widgets.size = world.widgets.size + built.length
  new : built.map Prod.fst =
        (List.range' world.widgets.size built.length).map WidgetId.mk
  keeps : world.KeepsWidgets after

namespace Yields

theorem passesSome (yields : Yields note built moments handled world after) :
    world.PassesSome note after :=
  yields.toPasses.some

/-- Nothing was created. -/
theorem of_passes (passes : Passes note moments handled world after)
    (widgetCount : after.widgets.size = world.widgets.size)
    (keeps : world.KeepsWidgets after) :
    Yields note [] moments handled world after :=
  ⟨passes, widgetCount, rfl, keeps⟩

theorem refl (world : World σ) : Yields note [] [] [] world world :=
  .of_passes (.refl world) rfl (Chains.refl world)

/-- What was built in two steps was built by both, moment after moment. -/
theorem trans (left : Yields note built moments handled world middle)
    (right : Yields note later more others middle after) :
    Yields note (built ++ later) (moments ++ more) (handled ++ others)
      world after where
  toPasses := left.toPasses.trans right.toPasses
  widgetCount := by
    rw [right.widgetCount, left.widgetCount, List.length_append, Nat.add_assoc]
  new := by
    rw [List.map_append, left.new, right.new, left.widgetCount,
      ← List.map_append, List.length_append, ← List.range'_append_1]
  keeps := Chains.trans left.keeps right.keeps

/-- Nothing was created, nothing passed, and no handler has run. -/
theorem idle (yields : Yields note built moments handled world middle)
    (quiet : Yields note [] [] [] middle after) :
    Yields note built moments handled world after := by
  simpa only [List.append_nil] using yields.trans quiet

theorem of_upkeep (upkeep : Upkeep world after) :
    Yields note [] [] [] world after :=
  .of_passes (.of_upkeep upkeep) upkeep.widgetCount (.of_eq upkeep.pins)

theorem record (note : HostCall → σ → σ) (world : World σ) (call : ToolkitCall) :
    Yields note [] [.call call] [] world (world.record call) :=
  .of_passes (.record note world call) rfl (.of_eq rfl)

theorem pin (note : HostCall → σ → σ) (world : World σ) (things : List Owned) :
    Yields note [] [] [] world (world.pin things) :=
  .of_passes (.pins note world _) rfl fun _ kept => List.mem_append_right _ kept

/-- To keep no longer what is no widget. -/
theorem unpin (note : HostCall → σ → σ) (world : World σ)
    {things : List Owned} (others : ∀ id : WidgetId, .widget id ∉ things) :
    Yields note [] [] [] world (world.unpin things) :=
  .of_passes (.unpin note world things) (slight_sweep _).widgetCount
    (keepsWidgets_unpin world others)

/-- The end of an operation that kept something. -/
theorem release (yields : Yields note built moments handled world after)
    {pins : List Owned}
    (kept : ∀ id : WidgetId, .widget id ∈ world.pins → .widget id ∈ pins) :
    Yields note built moments handled world (after.release pins) where
  toPasses := yields.toPasses.release pins
  widgetCount := (slight_sweep _).widgetCount.trans yields.widgetCount
  new := yields.new
  keeps id member := by
    have released : (after.release pins).pins = pins := (slight_sweep _).pins
    rw [released]
    exact kept id member

end Yields

/-! ## Connecting -/

/-- A handler of a controller was connected to an event of a widget, under some
name. -/
def wired (world : World σ) (widget : WidgetId) (name event : String)
    (handler : Handler) : World σ :=
  (world.record (.connect widget name)).updateWidget widget fun old =>
    { old with connections := old.connections ++ [(event, handler)] }

/-- A signal is connected, or nothing has changed. -/
theorem ends_buildSignal (handle : HandleId) (widget : WidgetId)
    (signal : Signal) (world : World σ) :
    (buildSignal handle widget signal : Attempt σ Unit).Ends world
      (fun _ after => ∃ event, (world.widget widget).cls.event? signal.event =
        some event ∧ after = world.wired widget signal.event event
        (.controller (world.handle handle).controller signal.handler))
      (· = world) := by
  refine .get ?_
  dsimp only
  cases found : (world.widget widget).cls.event? signal.event with
  | none => exact .throw rfl
  | some event =>
    rw [Option.isNone_some, if_neg Bool.false_ne_true]
    split
    · exact .throw rfl
    · have recorded :
          ((world.record (.connect widget signal.event)).widget
            widget).cls.event? signal.event = some event :=
        found
      refine .modify ?_
      unfold WidgetId.connect WidgetId.event
      constructor <;> intro outcome after ran <;>
        simp only [Attempt.bind_run, Attempt.getThe_run, recorded,
          Attempt.pure_run, Attempt.modifyThe_run] at ran <;> cases ran
      exact ⟨event, rfl, rfl⟩

/-- What a signal connects to a widget of a class: the event that it means, and
the handler. -/
def connection? (cls : WidgetClass) (controller : Controller)
    (signal : Signal) : Option (String × Handler) :=
  (cls.event? signal.event).map fun event =>
    (event, .controller controller signal.handler)

theorem widget_wired {widget : WidgetId}
    (inside : widget.index < world.widgets.size) (name event : String)
    (handler : Handler) :
    (world.wired widget name event handler).widget widget =
      { world.widget widget with connections :=
        (world.widget widget).connections ++ [(event, handler)] } := by
  rw [wired, widget_updateWidget, if_pos ⟨rfl, inside⟩]
  rfl

/-- To connect a handler to a new widget leaves all that was there before as it
was. -/
theorem Yields.wired (yields : Yields note built moments handled start world)
    {widget : WidgetId} (new : start.widgets.size ≤ widget.index)
    (name event : String) (handler : Handler) :
    Yields note built (moments ++ [.call (.connect widget name)]) handled start
      (world.wired widget name event handler) := by
  have recorded := yields.trans (.record note world (.connect widget name))
  rw [List.append_nil, List.append_nil] at recorded
  have others : ∀ id : WidgetId, id.index < start.widgets.size →
      (world.wired widget name event handler).widget id = world.widget id := by
    intro id old
    rw [World.wired, widget_updateWidget, if_neg]
    · rfl
    · rintro ⟨rfl, _⟩
      exact absurd old (Nat.not_lt.mpr new)
  have size : (world.wired widget name event handler).widgets.size =
        world.widgets.size :=
    Store.size_update ..
  exact { recorded with
    widgetsGrow := size ▸ yields.widgetsGrow
    classes :=
      fun id old => (congrArg Widget.cls (others id old)).trans
        (yields.classes id old)
    connections :=
      fun id old => (congrArg Widget.connections (others id old)).trans
        (yields.connections id old)
    fields :=
      fun id old unset => (congrArg Widget.fields (others id old)).trans
        (yields.fields id old fun sets => unset (sets.append_left _))
    widgetCount := size.trans yields.widgetCount }

/-- It leads on, for handlers are not held by bags, lists or fields. -/
theorem leadsTo_wired (world : World σ) (widget : WidgetId)
    (name event : String) (handler : Handler) :
    world.LeadsTo (world.wired widget name event handler) := by
  have fields (id : WidgetId) :
      ((world.wired widget name event handler).widget id).fields =
        (world.widget id).fields :=
    widget_project (world.record (.connect widget name)) widget id _
      Widget.fields fun _ => rfl
  have classes (id : WidgetId) :
      ((world.wired widget name event handler).widget id).cls =
        (world.widget id).cls :=
    widget_project (world.record (.connect widget name)) widget id _ Widget.cls
      fun _ => rfl
  exact ⟨[.call (.connect widget name)], rfl, fun _ => rfl, Nat.le_refl _,
    fun _ _ => rfl, Nat.le_of_eq (Store.size_update ..).symm,
    fun id _ => classes id, fun id _ _ => fields id, rfl,
    (List.append_nil _).symm⟩

/-- The signals of a new widget are connected in order. -/
theorem Yields.signals (handle : HandleId) {widget : WidgetId}
    (new : start.widgets.size ≤ widget.index) (signals : List Signal)
    {world : World σ} {moments : List Moment}
    (yields : Yields note built moments handled start world)
    (inside : widget.index < world.widgets.size) :
    (signals.forM (buildSignal handle widget) : Attempt σ PUnit).Ends world
      (fun _ after => Yields note built
        (moments ++ signals.map fun signal =>
          .call (.connect widget signal.event)) handled start after ∧
        world.LeadsTo after ∧ widget.index < after.widgets.size ∧
        (after.widget widget).cls = (world.widget widget).cls ∧
        (after.widget widget).connections = (world.widget widget).connections ++
        signals.filterMap (connection? (world.widget widget).cls
          (start.handle handle).controller)) (PassesSome note start) := by
  induction signals generalizing world moments with
  | nil =>
    refine .pure ?_
    refine ⟨?_, .refl world, inside, rfl, (List.append_nil _).symm⟩
    simpa using yields
  | cons signal rest hypothesis =>
    refine (ends_buildSignal handle widget signal world).bind ?_ fun _ same =>
      same ▸ yields.passesSome
    rintro _ _ ⟨event, found, rfl⟩
    rw [yields.controllers handle]
    have own :=
      widget_wired inside signal.event event
        (.controller (start.handle handle).controller signal.handler)
    have insideLater :=
      Nat.lt_of_lt_of_le inside
      (Nat.le_of_eq (Store.size_update world.widgets widget.index
      fun old => { old with connections :=
        old.connections ++
          [(event, .controller (start.handle handle).controller signal.handler)]
          }).symm)
    refine (hypothesis (yields.wired new signal.event event _) insideLater).mono
      (fun _ after => ?_) fun _ failed => failed
    rw [own]
    rintro ⟨grown, leads, insideAfter, cls, connections⟩
    have connection :
        connection? (world.widget widget).cls
          (start.handle handle).controller signal =
          some (event, .controller (start.handle handle).controller
            signal.handler) := by
      rw [connection?, found]
      rfl
    refine ⟨by simpa using grown, (leadsTo_wired ..).trans leads,
      insideAfter, cls, ?_⟩
    rw [connections, List.filterMap_cons_some connection, List.append_assoc]
    rfl

/-! ## Becoming ready -/

/-- Handlers of a controller run in order, and nothing else happens. -/
theorem yields_runEach (records : deliver.Records note)
    (controller : Controller) (names : List String) (world : World σ) :
    Yields note [] [] (if controller.scripted
      then names.map (.handler controller · []) else []) world
      (runEach deliver (names.map fun name =>
        .event (.controller controller name) []) world).2 := by
  induction names generalizing world with
  | nil => cases controller.scripted <;> exact .refl world
  | cons name rest hypothesis =>
    have ran := records.handles controller name world
    have called :
        Yields note [] [] (if controller.scripted
          then [.handler controller name []] else []) world
          (deliver (.event (.controller controller name) []) world).2 := by
      rw [ran]
      split
      · exact .of_passes (.heard note world (.handler controller name [])) rfl
          (.of_eq rfl)
      · exact .refl world
    have unpinned :
        Yields note [] [] []
          (deliver (.event (.controller controller name) []) world).2
          ((deliver (.event (.controller controller name) []) world).2.unpin
            (Callback.owns world (.event (.controller controller name) []))) :=
      .unpin note _ (by simp [Callback.owns, Handler.owns])
    have whole := (called.idle unpinned).trans (hypothesis _)
    have step :
        (runEach deliver ((name :: rest).map fun name =>
          .event (.controller controller name) []) world).2 =
          (runEach deliver (rest.map fun name =>
            .event (.controller controller name) [])
            ((deliver (.event (.controller controller name) []) world).2.unpin
              (Callback.owns world
                (.event (.controller controller name) [])))).2 :=
      rfl
    rw [step]
    cases scripted : controller.scripted <;> simpa [scripted] using whole

theorem yields_runAll (records : deliver.Records note)
    (controller : Controller) (names : List String) (world : World σ) :
    Yields note [] [] (if controller.scripted
      then names.map (.handler controller · []) else []) world
      (runAll deliver (names.map fun name =>
        .event (.controller controller name) []) world).2 :=
  (Yields.pin note world _).trans (yields_runEach records controller names _)

/-- The event that every class registers under the name `ready`, if it does. -/
theorem event?_ready {cls : WidgetClass} {event : String}
    (found : cls.event? "ready" = some event) : event = "ready" := by
  have spelled : Text.snakeCase "ready" = "ready" := by decide
  simpa [spelled] using List.find?_some found

/-- The handlers that run when a widget with the connections of some signals
becomes ready. -/
theorem ready_callbacks (cls : WidgetClass) (controller : Controller)
    (signals : List Signal) :
    ((signals.filterMap (connection? cls controller)).filter
      (·.1 == "ready")).map (fun connection => Callback.event connection.2 []) =
      ((signals.filter (cls.event? ·.event == some "ready")).map
        (·.handler)).map fun name =>
        .event (.controller controller name) [] := by
  induction signals with
  | nil => rfl
  | cons signal rest hypothesis =>
    cases found : cls.event? signal.event with
    | none =>
      have other : connection? cls controller signal = none := by
        rw [connection?, found]
        rfl
      rw [List.filterMap_cons_none other, hypothesis,
        List.filter_cons_of_neg (by rw [found]; decide)]
    | some event =>
      have connected : connection? cls controller signal =
            some (event, .controller controller signal.handler) := by
        rw [connection?, found]
        rfl
      rw [List.filterMap_cons_some connected]
      by_cases ready : event = "ready"
      · rw [List.filter_cons_of_pos (by simpa using ready),
          List.filter_cons_of_pos (by simpa [found] using ready), List.map_cons,
          List.map_cons, List.map_cons, hypothesis]
      · rw [List.filter_cons_of_neg (by simpa using ready),
          List.filter_cons_of_neg (by simpa [found] using ready), hypothesis]

/-- A widget becomes ready. -/
theorem ends_becomeReady (records : deliver.Records note) {widget : WidgetId}
    {controller : Controller} {signals : List Signal}
    (connections :
      (world.widget widget).connections =
        signals.filterMap (connection? (world.widget widget).cls controller)) :
    (widget.becomeReady deliver).Ends world
      (fun _ after => Yields note [] [.ready widget]
        (if controller.scripted
          then (signals.filter
            ((world.widget widget).cls.event? ·.event == some "ready")).map
          (.handler controller ·.handler []) else []) world after)
      (PassesSome note world) := by
  have noted : Yields note [] [.ready widget] [] world (world.noteReady widget) :=
    .of_passes (.noteReady note world widget) rfl (.of_eq rfl)
  have own : (world.noteReady widget).widget widget = world.widget widget := rfl
  refine .modify ?_
  unfold WidgetId.emit WidgetId.event
  cases found : (world.widget widget).cls.event? "ready" with
  | none =>
    constructor <;> intro outcome after ran <;>
      simp only [Attempt.bind_run, Attempt.getThe_run, own, found,
        Attempt.throw_run] at ran <;> cases ran
    exact noted.passesSome
  | some event =>
    cases event?_ready found
    have callbacks := ready_callbacks (world.widget widget).cls controller signals
    constructor <;> intro outcome after ran <;>
      simp only [Attempt.bind_run, Attempt.getThe_run, own, found,
        Attempt.pure_run, connections, callbacks, Attempt.lift_run]
      at ran <;> cases ran
    have whole :=
      noted.trans (yields_runAll records controller
        ((signals.filter ((world.widget widget).cls.event? ·.event ==
          some "ready")).map (·.handler)) (world.noteReady widget))
    rw [List.map_map] at whole
    exact whole

end World

end LiveMarkup
