import LiveMarkup.Proofs.Listening.Attention

/-!
# Operations that leave live properties listening

Properties are set, lists are changed, events are raised and live properties are
refreshed.  As long as values name only what there is, and the callbacks leave
live properties listening, all of that does.
-/

namespace LiveMarkup

variable {σ α β : Type}

open World (Heeds Attentive)

/-! ## Attempts -/

/-- Whether it fails or not, an attempt leaves live properties listening; if it
succeeds, its result is as stated. -/
def Attempt.Heedful (attempt : Attempt σ α) (world : World σ)
    (gives : α → World σ → Prop) : Prop :=
  attempt.Ends world (fun result after => world.Heeds after ∧
    gives result after) world.Heeds

namespace Attempt.Heedful

variable {world : World σ} {gives : α → World σ → Prop} {attempt : Attempt σ α}

theorem heeds (heedful : attempt.Heedful world gives) :
    world.Heeds (attempt.run world).2 := by
  rcases ran : attempt.run world with ⟨outcome, after⟩
  cases outcome with
  | error error => exact heedful.failure error after ran
  | ok result => exact (heedful.success result after ran).1

theorem of_run (heeds : world.Heeds (attempt.run world).2)
    (given :
      ∀ result,
        (attempt.run world).1 = .ok result → gives result (attempt.run world).2) :
    attempt.Heedful world gives :=
  Ends.of_run heeds given

theorem since {middle : World σ} (begun : world.Heeds middle)
    (rest : attempt.Heedful middle gives) :
    attempt.Ends middle (fun result after => world.Heeds after ∧
      gives result after) world.Heeds := by
  refine Ends.mono rest ?_ (fun _ ended => begun.trans ended)
  intro _ _ ended
  exact ⟨begun.trans ended.1, ended.2⟩

/-- Attempts in a row heed what each of them heeds. -/
theorem bind {next : α → Attempt σ β} {finishes : β → World σ → Prop}
    (first : attempt.Heedful world gives)
    (second :
      ∀ result middle,
        world.Heeds middle → gives result middle →
        (next result).Heedful middle finishes) :
    (attempt >>= next).Heedful world finishes := by
  refine Ends.bind first ?_ (fun _ failed => failed)
  intro result middle begun
  exact since begun.1 (second result middle begun.1 begun.2)

theorem pure {result : α} (attentive : Attentive world)
    (given : gives result world) :
    (Pure.pure result : Attempt σ α).Heedful world gives :=
  Ends.pure ⟨.refl attentive, given⟩

theorem throw {error : UiError} (attentive : Attentive world) :
    (MonadExcept.throw error : Attempt σ α).Heedful world gives :=
  Ends.throw (.refl attentive)

theorem get {next : World σ → Attempt σ α}
    (rest : (next world).Heedful world gives) :
    (getThe (World σ) >>= next).Heedful world gives :=
  Ends.get rest

theorem lift {action : Action σ α} (heeds : world.Heeds (action world).2)
    (given : gives (action world).1 (action world).2) :
    (liftM action : Attempt σ α).Heedful world gives :=
  Ends.lift ⟨heeds, given⟩

theorem perform {action : Action σ β} {next : β → Attempt σ α}
    (heeds : world.Heeds (action world).2)
    (rest : (next (action world).1).Heedful (action world).2 gives) :
    ((liftM action : Attempt σ β) >>= next).Heedful world gives :=
  Ends.perform (since heeds rest)

theorem change {change : World σ → World σ} {gives : PUnit → World σ → Prop}
    (heeds : world.Heeds (change world)) (given : gives ⟨⟩ (change world)) :
    (modifyThe (World σ) change : Attempt σ PUnit).Heedful world gives :=
  Ends.change ⟨heeds, given⟩

theorem modify {change : World σ → World σ} {next : PUnit → Attempt σ α}
    (heeds : world.Heeds (change world))
    (rest : (next ⟨⟩).Heedful (change world) gives) :
    (modifyThe (World σ) change >>= next).Heedful world gives :=
  Ends.modify (since heeds rest)

/-- What is kept meanwhile does not matter for what an attempt gives, if that
stays so. -/
theorem attempting {things : List Owned} (attentive : Attentive world)
    (heedful : attempt.Heedful (world.pin things) gives)
    (stays :
      ∀ result after later,
        after.Heeds later → gives result after → gives result later) :
    (LiveMarkup.attempting things attempt).Heedful world gives := by
  have begun := attentive.pin things
  have ends :
      attempt.Ends (world.pin things)
        (fun result after => (world.pin things).Heeds after ∧
          gives result after) (world.pin things).Heeds :=
    heedful
  refine Ends.attempting
    (ends.mono (fun result after ended => ?_) fun after failed => ?_)
  · exact ⟨(begun.trans ended.1).release _, stays result after _
      ((Heeds.refl ended.1.attentive).release _) ended.2⟩
  · exact (begun.trans failed).release _

theorem tryCatch {handler : UiError → Attempt σ α}
    (heedful : attempt.Heedful world gives)
    (handles :
      ∀ error after, world.Heeds after → (handler error).Heedful after gives) :
    (MonadExcept.tryCatch attempt handler).Heedful world gives := by
  refine Ends.tryCatch heedful ?_
  intro error after failed
  exact since failed (handles error after failed)

/-- So do attempts for all items of a list. -/
theorem forM {items : List β} {action : β → Attempt σ PUnit}
    (attentive : Attentive world)
    (each :
      ∀ item ∈ items, ∀ middle,
        world.Heeds middle → (action item).Heedful middle fun _ _ => True) :
    (items.forM action).Heedful world fun _ _ => True := by
  induction items generalizing world with
  | nil => exact .pure attentive trivial
  | cons item rest hypothesis =>
    refine .bind (each item (List.mem_cons_self ..) world (.refl attentive))
      fun _ middle begun _ => ?_
    exact hypothesis begun.attentive fun other member later ended =>
      each other (List.mem_cons_of_mem _ member) later (begun.trans ended)

end Attempt.Heedful

/-- The value of an expression names only what there is. -/
theorem World.Attentive.heedful_evaluateOnce {world : World σ}
    (attentive : Attentive world) {handle : HandleId} {scope : Scope}
    (knownHandle : handle.index < world.handles.size)
    (knownScope : scope.Known world world.loaded) (expr : Expr) :
    (EvaluationContext.eval ⟨some handle, scope, none⟩ expr).Heedful world
      fun value after => value.Known after after.loaded :=
  have evaluated := attentive.evaluateOnce knownHandle knownScope expr
  .of_run evaluated.1 evaluated.2

theorem World.Attentive.heedful_evaluate {world : World σ}
    (attentive : Attentive world) {id : BindingId} {binding : LiveBinding}
    (found : world.binding? id = some binding) :
    id.evaluate.Heedful world fun value after =>
      value.Known after after.loaded :=
  have evaluated := attentive.evaluate found
  .of_run evaluated.1 evaluated.2

/-! ## Actions -/

namespace World.Heeds

variable {world : World σ}

theorem bind {action : Action σ α} {next : α → Action σ β}
    (first : world.Heeds (action world).2)
    (second : (action world).2.Heeds (next (action world).1 (action world).2).2) :
    world.Heeds ((action >>= next) world).2 :=
  first.trans second

theorem keeping {things : List Owned} {action : Action σ α}
    (attentive : Attentive world)
    (inner : (world.pin things).Heeds (action (world.pin things)).2) :
    world.Heeds (LiveMarkup.keeping things action world).2 :=
  ((attentive.pin things).trans inner).release world.pins

/-- Actions for all items of a list do, too. -/
theorem forM {items : List β} {action : β → Action σ PUnit}
    (attentive : Attentive world)
    (each :
      ∀ item ∈ items, ∀ middle,
        world.Heeds middle → middle.Heeds (action item middle).2) :
    world.Heeds (items.forM action world).2 := by
  induction items generalizing world with
  | nil => exact .refl attentive
  | cons item rest hypothesis =>
    have first := each item (List.mem_cons_self ..) world (.refl attentive)
    exact first.trans (hypothesis first.attentive fun other member middle begun =>
      each other (List.mem_cons_of_mem _ member) middle (first.trans begun))

end World.Heeds

/-! ## Callbacks -/

/-- Whether the values that come with a callback name only what there is. -/
def Callback.Known (world : World σ) : Callback → Prop
  | .list _ change => change.value.Known world world.loaded
  | .event _ arguments => ∀ value ∈ arguments, value.Known world world.loaded
  | .created _ handle => handle.index < world.handles.size
  | .property _ _ | .updated _ _ | .disposed _ | .dispose _ => True

theorem Callback.Known.later {world after : World σ} {callback : Callback}
    (known : callback.Known world) (heeds : world.Heeds after) :
    callback.Known after := by
  cases callback with
  | list listener change => exact heeds.value known
  | event handler arguments => exact heeds.values known
  | created controller handle => exact heeds.handle known
  | property | updated | disposed | dispose => trivial

/-- Callbacks run in order. -/
theorem World.Heeds.runEach {deliver : Deliver σ} {world : World σ}
    (callbacks : List Callback)
    (delivers :
      ∀ callback ∈ callbacks, ∀ world,
        Attentive world → callback.Known world →
        world.Heeds (deliver callback world).2) (attentive : Attentive world)
    (known : ∀ callback ∈ callbacks, callback.Known world) :
    world.Heeds (LiveMarkup.runEach deliver callbacks world).2 := by
  induction callbacks generalizing world with
  | nil => exact .refl attentive
  | cons callback rest hypothesis =>
    have delivered := delivers callback (List.mem_cons_self ..) world attentive
      (known callback (List.mem_cons_self ..))
    have unpinned :=
      delivered.trans (delivered.attentive.unpin (callback.owns world))
    exact unpinned.trans
      (hypothesis (fun other member =>
        delivers other (List.mem_cons_of_mem _ member)) unpinned.attentive
        fun other member =>
          (known other (List.mem_cons_of_mem _ member)).later unpinned)

/-- Callbacks are delivered one by one, and the things they own are known as
long as that takes. -/
theorem World.Heeds.runAll {deliver : Deliver σ} {world : World σ}
    {callbacks : List Callback}
    (delivers :
      ∀ callback ∈ callbacks, ∀ world,
        Attentive world → callback.Known world →
        world.Heeds (deliver callback world).2) (attentive : Attentive world)
    (known : ∀ callback ∈ callbacks, callback.Known world) :
    world.Heeds (LiveMarkup.runAll deliver callbacks world).2 := by
  have pinned := attentive.pin (callbacks.flatMap (·.owns world))
  exact pinned.trans
    (.runEach callbacks delivers pinned.attentive fun callback member =>
      (known callback member).later pinned)

/-- A way to tell listeners of changed properties that leaves live properties
listening. -/
def Deliver.Hearing (deliver : Deliver σ) : Prop :=
  ∀ listener changed world, Attentive world →
    world.Heeds (deliver (.property listener changed) world).2

/-- A way to deliver callbacks of any kind that leaves live properties listening. -/
def Deliver.Heedful (deliver : Deliver σ) : Prop :=
  ∀ callback world, Attentive world → callback.Known world →
    world.Heeds (deliver callback world).2

theorem Deliver.Heedful.hearing {deliver : Deliver σ}
    (delivers : deliver.Heedful) : deliver.Hearing :=
  fun _ _ world attentive => delivers _ world attentive trivial

namespace Deliver.Hearing

variable {deliver : Deliver σ} {world : World σ}

theorem notify (delivers : deliver.Hearing) (attentive : Attentive world)
    (object : ObjectId) (changed : String) :
    world.Heeds (object.notify deliver changed world).2 := by
  refine .runAll (fun callback member world attentive _ => ?_) attentive
      fun callback member => ?_ <;> obtain ⟨listener, _, rfl⟩ :=
    List.mem_map.mp member
  · exact delivers listener changed world attentive
  · trivial

theorem set (delivers : deliver.Hearing) (attentive : Attentive world)
    (bag : BagId) (name : String) {value : Value}
    (known : value.Known world world.loaded) :
    world.Heeds (bag.set deliver name value world).2 := by
  have written : world.Heeds (world.updateBag bag fun old =>
      { old with values := putEntry name value old.values }) :=
    (World.writesBag_put known).alters.heeds attentive
  exact written.trans (delivers.notify written.attentive (.bag bag) name)

/-- A property is written, or it is not, and live properties listen to what they
have read. -/
theorem write (delivers : deliver.Hearing) (attentive : Attentive world)
    (widget : WidgetId) (name : String) {value : Value}
    (known : value.Known world world.loaded) :
    (widget.write deliver name value).Heedful world fun _ _ => True := by
  refine .of_run ?_ fun _ _ => trivial
  rw [WidgetId.write_run]
  cases found : (world.widget widget).cls.property? name with
  | none => exact .refl attentive
  | some property =>
    have written :=
      (World.writesWidget_assign (World.property?_mem found) known).alters.heeds
        attentive
    dsimp only
    split
    · exact written
    · exact written.trans
        (delivers.notify written.attentive (.widget widget) property.name)

end Deliver.Hearing

/-- Looking up an event changes nothing. -/
theorem Attempt.Heedful.event {world : World σ} (attentive : Attentive world)
    (widget : WidgetId) (name : String) :
    (widget.event name : Attempt σ String).Heedful world fun _ after =>
      after = world := by
  refine .get ?_
  dsimp only
  split
  · exact .pure attentive rfl
  · exact .throw attentive

/-- A handler that is connected is nothing live properties listen to. -/
theorem World.Attentive.updateConnections {world : World σ}
    (attentive : Attentive world) (widget : WidgetId) (name : String)
    (handler : Handler) :
    (Toolkit.connect widget name handler : Attempt σ PUnit).Heedful world
      fun _ _ => True := by
  refine .modify ((World.retrees_record world _).alters.heeds attentive) ?_
  have noted :=
    ((World.retrees_record world (.connect widget name)).alters.heeds
      attentive).attentive
  refine .bind (.event noted widget name) fun event middle _ same => ?_
  subst same
  exact .change ((World.retrees_updateWidget _ widget fun old =>
    ⟨old.children, old.parent, _, rfl⟩).alters.heeds noted) trivial

/-! ## Lists and events -/

namespace Deliver.Heedful

variable {deliver : Deliver σ} {world : World σ}

theorem emitChange (delivers : deliver.Heedful) (attentive : Attentive world)
    (list : ListId) {change : ListChange}
    (known : change.value.Known world world.loaded) :
    world.Heeds (list.emit deliver change world).2 := by
  refine World.Heeds.runAll (fun callback _ => delivers callback) attentive
    fun callback member => ?_
  obtain ⟨listener, _, rfl⟩ := List.mem_map.mp member
  exact known

/-- The elements of a list change, and that is announced. -/
theorem changeItems (delivers : deliver.Heedful) (attentive : Attentive world)
    (list : ListId) {items : List Value} {change : ListChange}
    (knownItems : ∀ value ∈ items, value.Known world world.loaded)
    (known : change.value.Known world world.loaded) :
    world.Heeds (list.emit deliver change (list.setItems items world).2).2 := by
  have changed : world.Heeds (list.setItems items world).2 :=
    (World.apart_setItems world list knownItems).heeds attentive
  exact changed.trans
    (delivers.emitChange changed.attentive list (changed.value known))

/-- A list tells of a value at its end. -/
theorem push (delivers : deliver.Heedful) (attentive : Attentive world)
    (list : ListId) {value : Value} (known : value.Known world world.loaded) :
    world.Heeds (list.push deliver value world).2 := by
  unfold ListId.push
  simp only [Action.bind_apply, Action.get_apply]
  refine delivers.changeItems attentive list (fun other member => ?_) known
  rcases List.mem_append.mp member with old | new
  · exact attentive.sound.items list other old
  · exact List.mem_singleton.mp new ▸ known

/-- A list tells of several values, one by one. -/
theorem extend (delivers : deliver.Heedful) (attentive : Attentive world)
    (list : ListId) {values : List Value}
    (known : ∀ value ∈ values, value.Known world world.loaded) :
    world.Heeds (list.extend deliver values world).2 := by
  induction values generalizing world with
  | nil => exact .refl attentive
  | cons value rest hypothesis =>
    have pushed :=
      delivers.push attentive list (known value (List.mem_cons_self ..))
    rw [ListId.extend]
    exact .bind pushed
      (hypothesis pushed.attentive
        (pushed.values fun other member =>
          known other (List.mem_cons_of_mem _ member)))

/-- A list tells of a value at an index, if it is inside. -/
theorem insert (delivers : deliver.Heedful) (attentive : Attentive world)
    (list : ListId) (index : Nat) {value : Value}
    (known : value.Known world world.loaded) :
    world.Heeds (list.insert deliver index value world).2 := by
  unfold ListId.insert
  rw [Action.bind_apply, Action.get_apply]
  dsimp only
  split
  · exact .refl attentive
  split
  · simp only [Action.bind_apply, Action.pure_apply]
    exact delivers.push attentive list known
  · simp only [Action.bind_apply, Action.pure_apply]
    refine delivers.changeItems attentive list (fun other member => ?_) known
    rcases List.mem_append.mp member with before | rest
    · exact attentive.sound.items list other (List.mem_of_mem_take before)
    · rcases List.mem_cons.mp rest with rfl | behind
      · exact known
      · exact attentive.sound.items list other (List.mem_of_mem_drop behind)

/-- A list tells of the value that was removed, if there was one. -/
theorem remove (delivers : deliver.Heedful) (attentive : Attentive world)
    (list : ListId) (index : Nat) :
    world.Heeds (list.remove deliver index world).2 := by
  unfold ListId.remove
  rw [Action.bind_apply, Action.get_apply]
  cases found : (world.list list).items[index]? with
  | none => exact .refl attentive
  | some value =>
    simp only [Action.bind_apply, Action.pure_apply]
    refine delivers.changeItems attentive list (fun other member => ?_)
      (attentive.sound.items list value (List.mem_of_getElem? found))
    exact attentive.sound.items list other (List.mem_of_mem_eraseIdx member)

theorem removeItem (delivers : deliver.Heedful) (attentive : Attentive world)
    (list : ListId) (value : Value) :
    world.Heeds (list.removeItem deliver value world).2 := by
  unfold ListId.removeItem
  rw [Action.bind_apply, Action.get_apply]
  cases (world.list list).items.findIdx? (·.same value) with
  | none => exact .refl attentive
  | some index => exact delivers.remove attentive list index

/-- A list tells of the values that were cut off, one by one. -/
theorem truncate (delivers : deliver.Heedful) (attentive : Attentive world)
    (list : ListId) (length : Nat) :
    world.Heeds (list.truncate deliver length world).2 := by
  unfold ListId.truncate
  rw [Action.bind_apply, Action.get_apply]
  generalize maximalCut + (world.list list).items.length = bound
  induction bound generalizing world with
  | zero =>
    exact (show World.SameState world { world with exhausted := true }
      from rfl).heeds attentive
  | succ bound hypothesis =>
    rw [ListId.cut, Action.bind_apply, Action.get_apply]
    dsimp only
    split
    · have removed :=
        delivers.remove attentive list (((world.list list).items.length) - 1)
      exact removed.trans (hypothesis removed.attentive)
    · exact .refl attentive

/-- An event is raised for its listeners, if the widget has it. -/
theorem emit (delivers : deliver.Heedful) (attentive : Attentive world)
    (widget : WidgetId) (name : String) {arguments : List Value}
    (known : ∀ value ∈ arguments, value.Known world world.loaded) :
    (widget.emit deliver name arguments).Heedful world fun _ _ => True := by
  refine .bind (.event attentive widget name) fun event middle _ same => ?_
  subst same
  refine .get (.lift
    (World.Heeds.runAll (fun callback _ => delivers callback) attentive
      fun callback member => ?_) trivial)
  obtain ⟨connection, _, rfl⟩ := List.mem_map.mp member
  exact known

theorem becomeReady (delivers : deliver.Heedful) (attentive : Attentive world)
    (widget : WidgetId) :
    (widget.becomeReady deliver).Heedful world fun _ _ => True := by
  have noted :=
    (show World.SameState world (world.noteReady widget) from rfl).heeds
      attentive
  exact .modify noted (delivers.emit noted.attentive widget "ready" nofun)

end Deliver.Heedful

/-! ## Giving values to properties -/

namespace World.Attentive

variable {world : World σ}

theorem record (attentive : Attentive world) (call : ToolkitCall) :
    world.Heeds (world.record call) :=
  (World.retrees_record world call).alters.heeds attentive

/-- A style override is no property that live properties listen to. -/
theorem overrideStyle (attentive : Attentive world) (widget : WidgetId)
    (key : String) (kind : StyleKind) (value : Value) :
    world.Heeds ((Toolkit.overrideStyle widget key kind value : Action σ Unit)
      world).2 := by
  have noted := attentive.record (.style widget key kind (world.shown value))
  refine noted.trans
    ((World.writesWidget_sameFields widget (fun old => ?_) (fun old => ?_)
      fun old => ?_).alters.heeds noted.attentive) <;> dsimp only <;>
    split <;> rfl

/-- Nor are overrides that are applied up to the first unknown key. -/
theorem applyOverrides (attentive : Attentive world) (widget : WidgetId)
    (entries : List (String × Value)) :
    (applyOverrides widget entries : Attempt σ Unit).Heedful world
      fun _ _ => True := by
  induction entries generalizing world with
  | nil => exact .pure attentive trivial
  | cons entry rest hypothesis =>
    unfold LiveMarkup.applyOverrides
    refine .get ?_
    dsimp only
    split
    · exact .throw attentive
    · next kind _ =>
      have overridden := attentive.overrideStyle widget entry.1 kind entry.2
      exact .perform overridden (hypothesis overridden.attentive)

/-- A property of a widget is read with a value that is known. -/
theorem getProperty (attentive : Attentive world) (widget : WidgetId)
    (name : String) :
    (Toolkit.getProperty widget name : Attempt σ Value).Heedful world
      fun value after => value.Known after after.loaded := by
  have noted := attentive.record (.get widget name)
  refine .modify noted ?_
  obtain ⟨reads, known⟩ :=
    World.watches_readProperty noted.attentive.sound widget name
  exact .of_run (noted.attentive.watches reads nofun) known

theorem report (attentive : Attentive world) (error : UiError) :
    world.Heeds ((report error : Action σ Unit) world).2 :=
  (show World.SameState world { world with errors := world.errors ++ [error] }
    from rfl).heeds attentive

/-- A live property is no longer being refreshed. -/
theorem endRefresh {after : World σ} {id : BindingId} {binding : LiveBinding}
    (due : world.refreshable? id = some binding)
    (gave : (world.beginRefresh id binding.widget).Heeds after)
    (outcome : Except UiError Unit) :
    world.Heeds (after.endRefresh id outcome) := by
  have unmarked := gave.attentive.updateBinding id (World.renews_busy false)
  have fits :=
    (World.later_updateBinding after id
      (World.renews_busy false).continues).fits
  have begun : Value.Fits world (world.beginRefresh id binding.widget) :=
    ⟨Nat.le_refl _, Nat.le_refl _, Nat.le_refl _, Nat.le_refl _⟩
  refine ⟨(begun.trans gave.fits).trans ?_, Nat.le_trans gave.loaded ?_,
    World.SameBusy.endRefresh due gave.busy outcome, ?_⟩ <;> cases outcome
  · exact ⟨fits.bags, fits.lists, fits.widgets, fits.handles⟩
  · exact fits
  · exact Nat.le_refl _
  · exact Nat.le_refl _
  · exact (unmarked.report _).attentive
  · exact unmarked

end World.Attentive

namespace World

variable {world : World σ}

theorem beginRefresh_binding? {id : BindingId} {binding : LiveBinding}
    (found : world.binding? id = some binding) :
    (world.beginRefresh id binding.widget).binding? id =
      some { binding with busy := true } := by
  rw [World.beginRefresh, binding?_updateBinding, if_pos rfl]
  exact congrArg (Option.map _) found

/-- A live property that is not evaluated at most gives up listening. -/
theorem refresh_idle (deliver : Deliver σ) {id : BindingId}
    (due : world.refreshable? id = none) :
    (id.refresh deliver world).2 = world ∨
    (id.refresh deliver world).2 = world.cancelBinding id := by
  unfold BindingId.refresh
  rw [Action.bind_apply, Action.get_apply]
  simp only [World.refreshable?] at due
  cases found : world.binding? id with
  | none => exact .inl rfl
  | some binding =>
    dsimp only
    cases here : world.existingWidget? binding.widget with
    | none => exact .inr rfl
    | some widget =>
      have busy : binding.busy = true := by
        unfold World.existingWidget? at here
        split at here
        · next present => simpa [found, Option.filter, present] using due
        · cases here
      simp only [busy, if_true]
      exact .inl rfl

end World

namespace Deliver.Hearing

variable {deliver : Deliver σ} {world : World σ}

theorem setProperty (delivers : deliver.Hearing) (attentive : Attentive world)
    (widget : WidgetId) (name : String) {value : Value}
    (known : value.Known world world.loaded) :
    (Toolkit.setProperty deliver widget name value).Heedful world
      fun _ _ => True := by
  have noted := attentive.record (.set widget name (world.shown value))
  exact .modify noted
    (delivers.write noted.attentive widget name (noted.value known))

/-- To apply a property is to set it, to merge settings into it, or to override
styles. -/
theorem applyProperty (delivers : deliver.Hearing)
    (attentive : Attentive world) (widget : WidgetId) (key : String)
    {value : Value} (known : value.Known world world.loaded) :
    (applyProperty deliver widget key value).Heedful world fun _ _ => True := by
  unfold LiveMarkup.applyProperty
  split
  · cases value with
    | map entries => exact attentive.applyOverrides widget entries
    | _ => exact .get (.throw attentive)
  · cases value with
    | map entries =>
      refine .bind (attentive.getProperty widget key)
        fun old middle begun knownOld => ?_
      have knownNew := begun.value known
      cases old with
      | map entriesOld =>
        exact delivers.setProperty begun.attentive widget key
          (Value.entriesKnown_mergeEntries knownOld knownNew)
      | _ => exact delivers.setProperty begun.attentive widget key knownNew
    | _ => exact delivers.setProperty attentive widget key known

/-- A live property is evaluated, and the value is given to a widget. -/
theorem give (delivers : deliver.Hearing) (attentive : Attentive world)
    {id : BindingId} {binding : LiveBinding}
    (found : world.binding? id = some binding) (given : LiveBinding) :
    (given.give deliver id).Heedful world fun _ _ => True := by
  refine .bind (attentive.heedful_evaluate found)
    fun value middle begun knownValue => ?_
  exact delivers.applyProperty begun.attentive given.widget given.key knownValue

/-- A refresh evaluates the live property, gives its value, and listens again.
-/
theorem refresh (delivers : deliver.Hearing) (attentive : Attentive world)
    (id : BindingId) : world.Heeds (id.refresh deliver world).2 := by
  cases due : world.refreshable? id with
  | some binding =>
    obtain ⟨found, _⟩ := World.refreshable?_eq_some.mp due
    have begun : (world.beginRefresh id binding.widget).Attentive :=
      (attentive.pin _).attentive.updateBinding id (World.renews_busy true)
    have gave :=
      (delivers.give begun (World.beginRefresh_binding? found) binding).heeds
    rw [refresh_apply due]
    dsimp only
    generalize (binding.give deliver id).run
      (world.beginRefresh id binding.widget) = ran at gave
    exact (World.Attentive.endRefresh due gave ran.1).release world.pins
  | none =>
    rcases World.refresh_idle deliver due with same | same <;> rw [same]
    · exact .refl attentive
    · exact attentive.cancelBinding id

/-- A property of a new widget is set. -/
theorem buildProperty (delivers : deliver.Hearing)
    (attentive : Attentive world) {handle : HandleId}
    (keeper : SubscriptionKeeper) {widget : WidgetId} {scope : Scope}
    (property : Property) (knownHandle : handle.index < world.handles.size)
    (knownWidget : widget.index < world.widgets.size)
    (knownScope : scope.Known world world.loaded) :
    (buildProperty deliver handle keeper widget scope property).Heedful world
      fun _ _ => True := by
  unfold LiveMarkup.buildProperty
  split
  · refine .bind (attentive.heedful_evaluateOnce knownHandle knownScope
      property.value) fun value middle begun knownValue => ?_
    exact delivers.applyProperty begun.attentive widget property.key knownValue
  · let binding : LiveBinding :=
      ⟨handle, widget, property.key, property.value, scope, [], 0, false,
        [], [], none⟩
    have begun : world.Heeds (world.withBinding binding keeper) :=
      attentive.withBinding ⟨rfl, rfl, rfl⟩ knownHandle knownWidget
        knownScope keeper
    have found :
        (world.withBinding binding keeper).binding? ⟨world.bindings.size⟩ =
          some binding := by
      rw [World.withBinding_binding?, if_pos rfl]
    have gave := delivers.give begun.attentive found binding
    exact Attempt.Ends.perform
      (Attempt.Ends.modify (Attempt.Heedful.since begun gave))

end Deliver.Hearing

/-- A signal is connected to the handler that it names. -/
theorem World.Attentive.buildSignal {world : World σ}
    (attentive : Attentive world) (handle : HandleId) (widget : WidgetId)
    (signal : Signal) :
    (buildSignal handle widget signal : Attempt σ PUnit).Heedful world
      fun _ _ => True := by
  refine .get ?_
  dsimp only
  split
  · exact .throw attentive
  split
  · exact .throw attentive
  · exact attentive.updateConnections widget signal.event _

end LiveMarkup
