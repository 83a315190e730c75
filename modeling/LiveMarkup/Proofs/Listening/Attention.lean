import LiveMarkup.Proofs.Bindings.Beginning
import LiveMarkup.Proofs.Cascades.Busy
import LiveMarkup.Proofs.Traces.Handles

/-!
# Live properties that keep listening

Whatever happens in a world, a live property whose record is kept listens to
everything that its latest evaluation has read.  That is so between any two
steps, also where live properties are not up to date: in the middle of an
announcement, and in handlers of the host.  The values that are written must
name only what there is; what else is done does not matter.
-/

namespace LiveMarkup

variable {σ α β : Type}

theorem Value.Fits.trans {first second third : World σ}
    (left : Value.Fits first second) (right : Value.Fits second third) :
    Value.Fits first third :=
  ⟨Nat.le_trans left.bags right.bags, Nat.le_trans left.lists right.lists,
    Nat.le_trans left.widgets right.widgets,
    Nat.le_trans left.handles right.handles⟩

namespace World

variable {world middle after : World σ}

/-! ## The invariant -/

/-- A live property keeps no registration: it has only begun, or it has given up
because its widget was gone when it should have been refreshed. -/
def Unsubscribed (world : World σ) (id : BindingId) : Prop :=
  ∃ binding, world.binding? id = some binding ∧ binding.subscriptions = []

/-- Values name only what there is, and every live property whose record is kept
listens to what it has read, unless it has given up. -/
structure Attentive (world : World σ) : Prop where
  sound : world.Sound world.loaded
  wired : world.Wired
  covered : ∀ id, world.Recorded id → world.Unsubscribed id ∨ world.Covered id

/-- What there was is still there, the same live properties are being refreshed,
and they listen to what they have read. -/
structure Heeds (world after : World σ) : Prop where
  fits : Value.Fits world after
  loaded : world.loaded ≤ after.loaded
  busy : world.SameBusy after
  attentive : Attentive after

theorem Heeds.refl (attentive : Attentive world) : world.Heeds world :=
  ⟨.refl world, Nat.le_refl _, fun _ => rfl, attentive⟩

theorem Heeds.trans (left : world.Heeds middle) (right : middle.Heeds after) :
    world.Heeds after where
  fits := left.fits.trans right.fits
  loaded := Nat.le_trans left.loaded right.loaded
  busy id := (right.busy id).trans (left.busy id)
  attentive := right.attentive

theorem Heeds.value (heeds : world.Heeds after) {value : Value}
    (known : value.Known world world.loaded) : value.Known after after.loaded :=
  Value.Known.mono heeds.fits heeds.loaded value known

theorem Heeds.values (heeds : world.Heeds after) {values : List Value}
    (known : ∀ value ∈ values, value.Known world world.loaded) :
    ∀ value ∈ values, value.Known after after.loaded :=
  fun value member => heeds.value (known value member)

theorem Heeds.scope (heeds : world.Heeds after) {scope : Scope}
    (known : scope.Known world world.loaded) : scope.Known after after.loaded :=
  known.mono heeds.fits heeds.loaded

theorem Heeds.widget (heeds : world.Heeds after) {id : WidgetId}
    (inside : id.index < world.widgets.size) : id.index < after.widgets.size :=
  Nat.lt_of_lt_of_le inside heeds.fits.widgets

theorem Heeds.handle (heeds : world.Heeds after) {id : HandleId}
    (inside : id.index < world.handles.size) : id.index < after.handles.size :=
  Nat.lt_of_lt_of_le inside heeds.fits.handles

/-! ## Changes apart from live properties -/

/-- A change apart from live properties: of contents, of documents and loops, of
the environment or of what the host listens to. -/
structure Apart (world after : World σ) : Prop where
  fits : Value.Fits world after
  loaded : world.loaded ≤ after.loaded
  sound : world.Sound world.loaded → after.Sound after.loaded
  bindings : after.bindings = world.bindings
  announcer :
      ∀ object,
        world.Has object → after.announcer object = world.announcer object
  ordered :
      ∀ post,
        (world.listenersAt post).Ordered → (after.listenersAt post).Ordered
  next : ∀ post, (world.listenersAt post).next ≤ (after.listenersAt post).next
  /-- The host takes its own listeners away only, and gives new ones new numbers. -/
  fewer : ∀ post, ∀ entry ∈ (after.listenersAt post).entries,
    entry ∈ (world.listenersAt post).entries ∨
      ((world.listenersAt post).next ≤ entry.1 ∧ ∃ number, entry.2 = .host number)
  keeps : ∀ post number id generation property,
      (number, PropertyListener.binding id generation property) ∈
        (world.listenersAt post).entries →
      (number, PropertyListener.binding id generation property) ∈
        (after.listenersAt post).entries
  kept : ∀ keeper, ∀ record ∈ after.kept keeper,
    record ∈ world.kept keeper ∨ ∃ list number, record = .list list number

/-- A change that alters no live property stands apart from all of them. -/
theorem Alters.apart (alters : Alters world after) : Apart world after where
  fits := alters.fits
  loaded := Nat.le_of_eq alters.loaded.symm
  sound sound := alters.loaded ▸ alters.sound sound
  bindings := alters.bindings
  announcer _ := alters.announcer
  ordered post ordered := alters.listeners post ▸ ordered
  next post := Nat.le_of_eq (congrArg Listeners.next (alters.listeners post).symm)
  fewer post _ member := .inl (alters.listeners post ▸ member)
  keeps post _ _ _ _ member := (alters.listeners post).symm ▸ member
  kept := alters.kept

theorem Apart.binding? (apart : Apart world after) (id : BindingId) :
    after.binding? id = world.binding? id := by
  simp only [World.binding?, apart.bindings]

/-- The registrations agree with the records after a change that stands apart.
-/
theorem Apart.wired (apart : Apart world after) (wired : world.Wired) :
    after.Wired where
  ordered post := apart.ordered post (wired.ordered post)
  heard post number id generation property member := by
    rcases apart.fewer post _ member with old | ⟨_, _, same⟩
    · obtain ⟨binding, found, below, current⟩ :=
        wired.heard post number id generation property old
      refine ⟨binding, (apart.binding? id).trans found, below, fun now => ?_⟩
      obtain ⟨object, announced, watched⟩ := current now
      have has := (wired.watched id binding found _ watched).1
      exact ⟨object, (apart.announcer object has).trans announced, watched⟩
    · cases same
  records id binding found record member := by
    rw [apart.binding?] at found
    obtain ⟨object, number, rfl, has, below, only⟩ :=
      wired.records id binding found record member
    refine ⟨object, number, rfl, apart.fits.has has, ?_, fun listener entry => ?_⟩
    · rw [apart.announcer object has]
      exact Nat.lt_of_lt_of_le below (apart.next _)
    · rw [apart.announcer object has] at entry
      rcases apart.fewer _ _ entry with old | ⟨new, _⟩
      · exact only listener old
      · exact absurd below (Nat.not_lt.mpr new)
  watched id binding found slot member := by
    rw [apart.binding?] at found
    have before := wired.watched id binding found slot member
    exact ⟨apart.fits.has before.1, before.2⟩
  keepers keeper record member := by
    rw [apart.bindings]
    rcases apart.kept keeper record member with old | list
    · exact wired.keepers keeper record old
    · exact .inl list
  single id keeper other member otherMember := by
    rcases apart.kept keeper _ member with old | ⟨_, _, same⟩
    · rcases apart.kept other _ otherMember with otherOld | ⟨_, _, same⟩
      · exact wired.single id keeper other old otherOld
      · cases same
    · cases same

/-- Live properties that listen to what they have read do so after a change that
stands apart. -/
theorem Apart.attentive (apart : Apart world after)
    (attentive : Attentive world) : Attentive after where
  sound := apart.sound attentive.sound
  wired := apart.wired attentive.wired
  covered id recorded := by
    have before : world.Recorded id := by
      obtain ⟨keeper, member⟩ := recorded
      rcases apart.kept keeper _ member with old | ⟨_, _, same⟩
      · exact ⟨keeper, old⟩
      · cases same
    rcases attentive.covered id before with ⟨binding, found, none⟩ | covered
    · exact .inl ⟨binding, (apart.binding? id).trans found, none⟩
    · refine .inr fun binding found slot member => ?_
      rw [apart.binding?] at found
      obtain ⟨number, entry⟩ := covered binding found slot member
      refine ⟨number, ?_⟩
      rw [apart.announcer _
        (attentive.wired.watched id binding found slot member).1]
      exact apart.keeps _ _ _ _ _ entry

theorem Apart.heeds (apart : Apart world after) (attentive : Attentive world) :
    world.Heeds after :=
  ⟨apart.fits, apart.loaded, .of_bindings apart.bindings, apart.attentive attentive⟩

/-- A change of host and records only stands apart. -/
theorem SameState.apart (same : SameState world after) : Apart world after := by
  have sound := same.transition.sound
  have loaded := same.transition.later.loaded
  have fits := same.transition.later.fits
  rw [same] at sound loaded fits ⊢
  refine ⟨fits, loaded, sound, rfl, ?_, ?_, ?_, ?_, ?_, ?_⟩
  · intro object _
    cases object <;> rfl
  · intro post ordered
    cases post <;> exact ordered
  · intro post
    cases post <;> exact Nat.le_refl _
  · intro post _ member
    exact .inl (by cases post <;> exact member)
  · intro post _ _ _ _ member
    cases post <;> exact member
  · intro keeper _ member
    exact .inl (by cases keeper <;> exact member)

theorem SameState.heeds (same : SameState world after)
    (attentive : Attentive world) : world.Heeds after :=
  same.apart.heeds attentive

theorem Alters.heeds (alters : Alters world after) (attentive : Attentive world) :
    world.Heeds after :=
  alters.apart.heeds attentive

/-- The elements of a list change. -/
theorem apart_setItems (world : World σ) (list : ListId) {items : List Value}
    (known : ∀ value ∈ items, value.Known world world.loaded) :
    Apart world (world.updateList list fun old => { old with items }) := by
  have fits :
      Value.Fits world (world.updateList list fun old => { old with items }) :=
    ⟨Nat.le_refl _, Nat.le_of_eq (Store.size_update ..).symm, Nat.le_refl _,
      Nat.le_refl _⟩
  refine {
    fits
    loaded := Nat.le_refl _
    sound := fun sound =>
      sound.extend { fits, items := fun id value member => ?_ }
    bindings := rfl
    announcer := fun object _ => by cases object <;> rfl
    ordered := fun post ordered => by cases post <;> exact ordered
    next := fun post => by cases post <;> exact Nat.le_refl _
    fewer := fun post _ member => .inl (by cases post <;> exact member)
    keeps := fun post _ _ _ _ member => by cases post <;> exact member
    kept := fun keeper _ member => .inl (by cases keeper <;> exact member) }
  rw [list_updateList] at member
  split at member
  · exact .inr (Value.Known.mono fits (Nat.le_refl _) value (known value member))
  · exact .inl member

/-- What a document names, and the records that it keeps of lists, change. -/
theorem apart_updateHandle (world : World σ) (id : HandleId)
    (change : Handle → Handle)
    (controller : ∀ old, (change old).controller = old.controller)
    (nodes :
      ∀ entry ∈ (change (world.handle id)).nodes,
        entry ∈ (world.handle id).nodes ∨ entry.2.index < world.widgets.size)
    (imports :
      ∀ entry ∈ (change (world.handle id)).imports,
        entry ∈ (world.handle id).imports ∨ entry.2.index < world.handles.size)
    (subscriptions :
      ∀ record ∈ (change (world.handle id)).subscriptions,
        record ∈ (world.handle id).subscriptions ∨
        ∃ list number, record = .list list number) :
    Apart world (world.updateHandle id change) := by
  refine {
    fits := fits_updateHandle world id change
    loaded := Nat.le_refl _
    sound := fun sound => sound.extend (.updateHandle controller nodes imports)
    bindings := rfl
    announcer := fun object _ => announcer_updateHandle world id controller object
    ordered := fun post ordered => by cases post <;> exact ordered
    next := fun post => by cases post <;> exact Nat.le_refl _
    fewer := fun post _ member => .inl (by cases post <;> exact member)
    keeps := fun post _ _ _ _ member => by cases post <;> exact member
    kept := fun keeper record member => ?_ }
  cases keeper with
  | item => exact .inl member
  | handle other =>
    rcases mem_updateHandle Handle.subscriptions member with old | ⟨rfl, kept⟩
    · exact .inl old
    · exact subscriptions record kept

/-! ## Records that end -/

/-- Listeners may be taken away from live properties of which no record is kept
any more, and from those that give up. -/
theorem Attentive.cuts {lost : BindingId → Prop} (attentive : Attentive world)
    (cuts : Cuts lost world after)
    (gone : ∀ id, lost id → after.Recorded id → after.Unsubscribed id) :
    world.Heeds after where
  fits := cuts.later.fits
  loaded := cuts.later.loaded
  busy id := by
    obtain ⟨cut, _, same⟩ := cuts.bindings id
    rw [isBusy, same, Option.any_map]
    rfl
  attentive := {
    sound := by
      have loaded : after.loaded = world.loaded := by rw [cuts.rest]
      rw [loaded]
      exact cuts.sound attentive.sound
    wired := cuts.wired attentive.wired
    covered := fun id recorded => by
      by_cases isLost : lost id
      · exact .inl (gone id isLost recorded)
      rcases attentive.covered id (cuts.recorded recorded)
        with ⟨binding, found, none⟩ | covered
      · obtain ⟨cut, fewer, same⟩ := cuts.bindings id
        refine .inl ⟨_, by rw [same, found]; rfl, ?_⟩
        exact List.subset_nil.mp (none ▸ fewer binding.subscriptions)
      · exact .inr (cuts.covered isLost covered) }

/-- Sweeping takes listeners from nobody whose record is kept. -/
theorem Attentive.sweep (attentive : Attentive world) :
    world.Heeds world.sweep := by
  refine attentive.cuts attentive.wired.sweeps_sweep ?_
  intro _ gone recorded
  exact absurd recorded gone

theorem Heeds.release (heeds : world.Heeds after) (pins : List Owned) :
    world.Heeds (after.release pins) :=
  have same : SameState after { after with pins } := rfl
  (heeds.trans (same.heeds heeds.attentive)).trans
    (same.heeds heeds.attentive).attentive.sweep

theorem Attentive.pin (attentive : Attentive world) (things : List Owned) :
    world.Heeds (world.pin things) :=
  (show SameState world (world.pin things) from rfl).heeds attentive

theorem Attentive.unpin (attentive : Attentive world) (things : List Owned) :
    world.Heeds (world.unpin things) :=
  have same : SameState world
    { world with pins := things.foldl List.erase world.pins } := rfl
  (same.heeds attentive).trans (same.heeds attentive).attentive.sweep

/-- The records of a loop item end. -/
theorem Attentive.cancelItem (attentive : Attentive world) (id : ItemId) :
    world.Heeds (world.cancelItem id) := by
  have cleared :
      Cuts (fun binding => .binding binding ∈ world.kept (.item id)) world
        (world.updateItem id fun old => { old with subscriptions := [] }) :=
    cuts_updateItem _ world id _ fun _ => List.nil_subset _
  have cancelled :
      Cuts (fun binding => .binding binding ∈ world.kept (.item id)) _
        (world.cancelItem id) :=
    Wired.cuts_cancels (world.kept (.item id)) _ (cleared.wired attentive.wired)
      fun record member => attentive.wired.isKeepers member
  refine attentive.cuts (cleared.trans cancelled) fun binding member recorded => ?_
  exfalso
  obtain ⟨keeper, still⟩ := recorded
  have between := cancelled.kept keeper still
  have own :=
    attentive.wired.single binding keeper (.item id)
      (cleared.kept keeper between) member
  subst own
  simp only [kept, item_updateItem] at between
  split at between
  · cases between
  · next outside =>
    rw [item, Store.get?_of_not_lt fun inside => outside ⟨trivial, inside⟩]
      at between
    cases between

/-- The records of a document end. -/
theorem Attentive.cancelHandle (attentive : Attentive world) (id : HandleId) :
    world.Heeds (world.cancelHandle id) := by
  have cleared :
      Apart world (world.updateHandle id fun old =>
        { old with subscriptions := [] }) :=
    apart_updateHandle world id _ (fun _ => rfl) (fun _ member => .inl member)
      (fun _ member => .inl member) fun _ member => absurd member List.not_mem_nil
  have cancelled :
      Cuts (fun binding => .binding binding ∈ world.kept (.handle id)) _
        (world.cancelHandle id) :=
    Wired.cuts_cancels (world.kept (.handle id)) _ (cleared.wired attentive.wired)
      fun record member => attentive.wired.isKeepers member
  refine (cleared.heeds attentive).trans
    ((cleared.attentive attentive).cuts cancelled
      fun binding member recorded => ?_)
  exfalso
  obtain ⟨keeper, still⟩ := recorded
  rcases cleared.kept keeper _ (cancelled.kept keeper still)
    with before | ⟨_, _, same⟩
  · have own := attentive.wired.single binding keeper (.handle id) before member
    subst own
    rw [World.kept, handle_cancelHandle, if_pos rfl] at still
    cases still
  · cases same

/-- Cancelling listeners changes no live property. -/
theorem bindings_cancelListeners (records : List Subscription) (world : World σ) :
    (records.foldl cancelListener world).bindings = world.bindings := by
  induction records generalizing world with
  | nil => rfl
  | cons record rest hypothesis =>
    rw [List.foldl_cons, hypothesis]
    cases record with
    | object object number =>
      rw [cancelListener, updatePropertyListeners_eq]
      cases world.announcer object <;> rfl
    | list => rfl
    | binding => rfl

/-- A live property that gives up keeps no registration. -/
theorem binding?_cancelBinding {id : BindingId} {binding : LiveBinding}
    (found : world.binding? id = some binding) :
    (world.cancelBinding id).binding? id =
      some { binding with subscriptions := [] } := by
  simp only [World.cancelBinding, found]
  rw [World.binding?, bindings_cancelListeners]
  change (world.updateBinding id _).binding? id = _
  rw [binding?_updateBinding, if_pos rfl, found]
  rfl

/-- A live property gives up because its widget is gone. -/
theorem Attentive.cancelBinding (attentive : Attentive world) (id : BindingId) :
    world.Heeds (world.cancelBinding id) := by
  refine attentive.cuts (attentive.wired.cuts_cancelBinding id)
    fun other same recorded => ?_
  subst same
  cases found : world.binding? other with
  | none =>
    obtain ⟨keeper, member⟩ := recorded
    have kept := (attentive.wired.cuts_cancelBinding other).kept keeper member
    rcases attentive.wired.keepers keeper _ kept with ⟨_, _, same⟩ |
      ⟨_, same, inside⟩
    · cases same
    · cases same
      obtain ⟨binding, here⟩ := Store.get?_of_lt inside
      cases found.symm.trans here
  | some binding => exact ⟨_, binding?_cancelBinding found, rfl⟩

/-! ## Evaluations -/

/-- A live property changes, and its listeners stay in force or become outdated
all together. -/
theorem Attentive.updateBinding (attentive : Attentive world) (id : BindingId)
    {change : LiveBinding → LiveBinding} (renews : Renews change) :
    Attentive (world.updateBinding id change) where
  sound :=
    attentive.sound.updateBinding fun binding =>
      ⟨(renews.continues binding).handle, (renews.continues binding).widget,
        (renews.continues binding).scope⟩
  wired := attentive.wired.updateBinding renews
  covered other recorded := by
    have found : (world.updateBinding id change).binding? other =
          if id = other then (world.binding? other).map change
          else world.binding? other :=
      binding?_updateBinding ..
    rcases attentive.covered other recorded with ⟨binding, before, none⟩ | covered
    · refine .inl ?_
      rw [Unsubscribed, found, before]
      split
      · exact ⟨_, rfl, (renews.subscriptions binding).trans none⟩
      · exact ⟨_, rfl, none⟩
    · refine .inr fun binding here slot member => ?_
      rw [found] at here
      split at here
      · obtain ⟨old, before, rfl⟩ := Option.map_eq_some_iff.mp here
        rcases renews.listening old with ⟨generation, watched⟩ | ⟨_, nothing⟩
        · rw [watched] at member
          rw [generation]
          exact covered old before slot member
        · rw [nothing] at member
          cases member
      · exact covered binding here slot member

/-- To renew a live property is a step after which all of them listen to what
they have read. -/
theorem Attentive.renews (attentive : Attentive world) (id : BindingId)
    {change : LiveBinding → LiveBinding} (renews : Renews change)
    (busy : ∀ binding, (change binding).busy = binding.busy) :
    world.Heeds (world.updateBinding id change) where
  fits := (later_updateBinding world id renews.continues).fits
  loaded := Nat.le_refl _
  busy other := by
    rw [isBusy, isBusy, binding?_updateBinding]
    split
    · rw [Option.any_map]
      exact congrArg (Option.any · _) (funext busy)
    · rfl
  attentive := attentive.updateBinding id renews

/-- So is a step in which one of them begins to listen. -/
theorem Attentive.watches {watcher : Option BindingId}
    (attentive : Attentive world) (watches : Watches watcher world after)
    (own : ∀ id, watcher = some id → world.Covered id) : world.Heeds after where
  fits := watches.fits
  loaded := watches.loaded
  busy id := by
    by_cases watching : watcher = some id
    · cases found : world.binding? id with
      | none =>
        have outside : ¬ id.index < after.bindings.size := fun inside => by
          obtain ⟨binding, here⟩ := Store.get?_of_lt (watches.bindingCount ▸ inside)
          cases found.symm.trans here
        rw [isBusy, isBusy, found, World.binding?, Store.get?_of_not_lt outside]
      | some binding =>
        obtain ⟨later, foundLater, grows⟩ := watches.own id watching binding found
        rw [isBusy, isBusy, found, foundLater, grows.same]
        rfl
    · rw [isBusy, isBusy, watches.others id watching]
  attentive := {
    sound := watches.soundLoaded attentive.sound
    wired := watches.wired attentive.wired
    covered := fun id recorded => by
      have before : world.Recorded id := by
        obtain ⟨keeper, member⟩ := recorded
        refine ⟨keeper, ?_⟩
        rw [watches.rest] at member
        exact member
      by_cases watching : watcher = some id
      · exact .inr (watches.covered attentive.wired id (own id watching))
      rcases attentive.covered id before with ⟨binding, found, none⟩ | covered
      · exact .inl ⟨binding, (watches.others id watching).trans found, none⟩
      · exact .inr (watches.covered attentive.wired id covered) }

/-- An expression is evaluated without listening. -/
theorem Attentive.evaluateOnce (attentive : Attentive world) {handle : HandleId}
    {scope : Scope}
    (knownHandle : handle.index < world.handles.size)
    (knownScope : scope.Known world world.loaded)
    (expr : Expr) :
    let run := (EvaluationContext.eval ⟨some handle, scope, none⟩ expr).run world
    world.Heeds run.2 ∧ ∀ value, run.1 = .ok value →
        value.Known run.2 run.2.loaded := by
  have ready : (⟨some handle, scope, none⟩ : EvaluationContext).Ready world :=
    ⟨attentive.sound, attentive.wired,
      fun _ same => by cases same; exact knownHandle, knownScope⟩
  have follows :
      Follows ⟨some handle, scope, none⟩ 0 0 expr.aliases
        (Value.renumber (Value.shift 0 0))
        (fun after value => value.Known after after.loaded) world
        (EvaluationContext.eval ⟨some handle, scope, none⟩ expr)
        (EvaluationContext.eval ⟨some handle, scope, none⟩ expr) :=
    follows_eval expr world ready
  exact ⟨attentive.watches follows.watches nofun, follows.known⟩

/-- What a live property is when another evaluation of it has begun. -/
theorem binding?_renew {id : BindingId} {binding : LiveBinding}
    (found : world.binding? id = some binding) :
    (id.renew world).binding? id = some { binding with
      subscriptions := []
      generation := binding.generation + 1
      watched := [] } := by
  rw [BindingId.renew, binding?_updateBinding, if_pos rfl,
    binding?_cancelBinding found]
  rfl

/-- The run of the expression in the evaluation of a live property. -/
def evaluation (world : World σ) (id : BindingId) (binding : LiveBinding) :
    Except UiError Value × World σ :=
  (EvaluationContext.eval ⟨some binding.handle, binding.scope, some id⟩
    binding.expr).run (id.renew world)

theorem evaluate_eq {id : BindingId} {binding : LiveBinding}
    (found : world.binding? id = some binding) :
    id.evaluate.run world =
      ((world.evaluation id binding).1,
         id.conclude (world.evaluation id binding).1
         (world.evaluation id binding).2) := by
  have run := evaluate_run (binding?_renew found)
  exact run

/-- The evaluation of a live property listens to what it reads. -/
theorem Attentive.evaluation (attentive : Attentive world) {id : BindingId}
    {binding : LiveBinding} (found : world.binding? id = some binding) :
    (id.renew world).Attentive ∧
    Watches (some id) (id.renew world) (world.evaluation id binding).2 ∧
    (world.evaluation id binding).2.Covered id ∧
    ∀ value,
      (world.evaluation id binding).1 = .ok value →
      value.Known (world.evaluation id binding).2
        (world.evaluation id binding).2.loaded := by
  have cancelled := attentive.cancelBinding id
  have renewed : (id.renew world).Attentive :=
    cancelled.attentive.updateBinding id renews_next
  have begun := binding?_renew found
  have known := renewed.sound.bindings id _ begun
  have ready :
      (⟨some binding.handle, binding.scope, some id⟩ : EvaluationContext).Ready
        (id.renew world) :=
    ⟨renewed.sound, renewed.wired,
      fun _ same => by cases same; exact known.1, known.2.2⟩
  have follows :
      Follows ⟨some binding.handle, binding.scope, some id⟩ 0 0
        binding.expr.aliases (Value.renumber (Value.shift 0 0))
        (fun after value => value.Known after after.loaded) (id.renew world)
        (EvaluationContext.eval ⟨some binding.handle, binding.scope, some id⟩
          binding.expr) (EvaluationContext.eval
            ⟨some binding.handle, binding.scope, none⟩ binding.expr) :=
    follows_eval binding.expr _ ready
  -- nothing was read when the evaluation began
  have nothing : (id.renew world).Covered id := by
    intro other foundAgain slot member
    cases begun.symm.trans foundAgain
    cases member
  exact ⟨renewed, follows.watches,
    follows.watches.covered renewed.wired id nothing, follows.known⟩

/-- A live property is evaluated. -/
theorem Attentive.evaluate (attentive : Attentive world) {id : BindingId}
    {binding : LiveBinding} (found : world.binding? id = some binding) :
    world.Heeds (id.evaluate.run world).2 ∧
    ∀ value,
      (id.evaluate.run world).1 = .ok value →
      value.Known (id.evaluate.run world).2
        (id.evaluate.run world).2.loaded := by
  obtain ⟨renewed, watches, covered, known⟩ := attentive.evaluation found
  have begun := (attentive.cancelBinding id).trans
    ((attentive.cancelBinding id).attentive.renews id renews_next fun _ => rfl)
  have read : (id.renew world).Heeds (world.evaluation id binding).2 :=
    renewed.watches watches fun other same => by
      cases same
      intro other foundAgain slot member
      cases (binding?_renew found).symm.trans foundAgain
      cases member
  rw [evaluate_eq found]
  have ended :=
    read.attentive.renews id (renews_outcome (world.evaluation id binding).1)
      fun _ => rfl
  refine ⟨(begun.trans read).trans ended, ?_⟩
  intro value gave
  exact ended.value (known value gave)

/-- A live property begins, and its record is kept. -/
theorem Attentive.withBinding (attentive : Attentive world)
    {binding : LiveBinding} (begins : LiveBinding.Begins binding)
    (handle : binding.handle.index < world.handles.size)
    (widget : binding.widget.index < world.widgets.size)
    (scope : binding.scope.Known world world.loaded)
    (keeper : SubscriptionKeeper) :
    world.Heeds (world.withBinding binding keeper) := by
  have same := withBinding_sameObjects world binding keeper
  have loaded := same.environment.2.2.2.2.1
  refine ⟨same.fits, Nat.le_of_eq loaded.symm, fun id => ?_, ?_,
    attentive.wired.withBinding begins, fun id recorded => ?_⟩
  · rw [isBusy, isBusy, withBinding_binding?]
    split
    · next new =>
      rw [Option.any_some, begins.busy, World.binding?,
        Store.get?_of_not_lt (new ▸ Nat.lt_irrefl _)]
      rfl
    · rfl
  · rw [loaded]
    refine same.sound attentive.sound (fun id old found => ?_) fun id block found =>
      .inl ⟨block, by cases keeper <;> exact found, rfl, rfl, rfl⟩
    rw [withBinding_binding?] at found
    split at found
    · cases found
      exact .inr ⟨handle, widget, scope⟩
    · exact .inl ⟨old, found, rfl, rfl, rfl⟩
  · by_cases new : id.index = world.bindings.size
    · refine .inl ?_
      refine ⟨binding, ?_, begins.subscriptions⟩
      rw [withBinding_binding?, if_pos new]
    · have before := withBinding_recorded new recorded
      rw [Unsubscribed, Covered, withBinding_binding?, if_neg new]
      refine (attentive.covered id before).imp_right
        fun covered old found slot member => ?_
      rw [same.announcer, same.listenersAt]
      exact covered old found slot member

end World

end LiveMarkup
