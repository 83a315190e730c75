import LiveMarkup.Proofs.Bindings.Placing
import LiveMarkup.Proofs.Bindings.Hosts

/-!
# Beginning a live property

A live property begins with a record that its document or loop item keeps.  It
is left out of the invariant until it has been evaluated for the first time,
which makes it fresh.
-/

namespace LiveMarkup.World

variable {σ : Type} {world after : World σ}

/-- The world with a new live property whose record is kept. -/
def withBinding (world : World σ) (binding : LiveBinding)
    (keeper : SubscriptionKeeper) : World σ :=
  { world with bindings := world.bindings.add binding }.keepSubscription keeper
    (.binding ⟨world.bindings.size⟩)

variable {binding : LiveBinding} {keeper : SubscriptionKeeper}

theorem withBinding_binding? (id : BindingId) :
    (world.withBinding binding keeper).binding? id =
      if id.index = world.bindings.size then some binding
      else world.binding? id := by
  have bindings : (world.withBinding binding keeper).bindings =
        world.bindings.add binding := by
    cases keeper <;> rfl
  simp only [World.binding?, bindings, Store.get?_add]

theorem withBinding_old {id : BindingId} {old : LiveBinding}
    (found : world.binding? id = some old) :
    (world.withBinding binding keeper).binding? id = some old := by
  rw [withBinding_binding?, if_neg (Nat.ne_of_lt (Store.lt_size_of_get? found))]
  exact found

/-- Who keeps the new live property has one record more, and everybody else
keeps the same. -/
theorem withBinding_kept {other : SubscriptionKeeper} {record : Subscription}
    (member : record ∈ (world.withBinding binding keeper).kept other) :
    record ∈ world.kept other ∨
    (record = .binding ⟨world.bindings.size⟩ ∧ other = keeper) := by
  cases keeper with
  | handle id =>
    cases other with
    | item other => exact .inl member
    | handle other =>
      simp only [World.kept, withBinding, keepSubscription, handle_updateHandle]
        at member
      split at member
      case isTrue here =>
        obtain ⟨rfl, _⟩ := here
        refine (List.mem_append.mp member).imp_right ?_
        intro new
        exact ⟨List.mem_singleton.mp new, rfl⟩
      case isFalse => exact .inl member
  | item id =>
    cases other with
    | handle other => exact .inl member
    | item other =>
      simp only [World.kept, withBinding, keepSubscription, item_updateItem]
        at member
      split at member
      case isTrue here =>
        obtain ⟨rfl, _⟩ := here
        refine (List.mem_append.mp member).imp_right ?_
        intro new
        exact ⟨List.mem_singleton.mp new, rfl⟩
      case isFalse => exact .inl member

/-- A new live property changes no object. -/
theorem withBinding_sameObjects (world : World σ) (binding : LiveBinding)
    (keeper : SubscriptionKeeper) :
    SameObjects world (world.withBinding binding keeper) := by
  cases keeper with
  | item id =>
    exact ⟨rfl, rfl, ⟨rfl, rfl, rfl, rfl, rfl, rfl⟩, rfl, fun _ => rfl, rfl,
      fun _ => ⟨rfl, rfl, rfl, rfl⟩⟩
  | handle id =>
    refine ⟨rfl, rfl, ⟨rfl, rfl, rfl, rfl, rfl, rfl⟩, rfl, fun _ => rfl,
      Store.size_update .., fun other => ?_⟩
    simp only [withBinding, keepSubscription, handle_updateHandle]
    split <;> exact ⟨rfl, rfl, rfl, rfl⟩

theorem withBinding_count (world : World σ) (binding : LiveBinding)
    (keeper : SubscriptionKeeper) :
    (world.withBinding binding keeper).bindings.size =
      world.bindings.size + 1 := by
  have bindings : (world.withBinding binding keeper).bindings =
        world.bindings.add binding := by
    cases keeper <;> rfl
  rw [bindings, Store.size_add]

/-- Nothing that was there before is lost when a live property is created. -/
theorem withBinding_later (world : World σ) (binding : LiveBinding)
    (keeper : SubscriptionKeeper) :
    world.Later (world.withBinding binding keeper) where
  agrees := (withBinding_sameObjects world binding keeper).agrees
  fits := (withBinding_sameObjects world binding keeper).fits
  loaded :=
    Nat.le_of_eq (withBinding_sameObjects world binding
      keeper).environment.2.2.2.2.1.symm
  bindingCount := by
    rw [withBinding_count]
    exact Nat.le_succ _
  bindings id old found := ⟨old, withBinding_old found, .refl old⟩

/-- A live property that is older is on record only where it was before. -/
theorem withBinding_recorded {id : BindingId}
    (old : id.index ≠ world.bindings.size)
    (recorded : (world.withBinding binding keeper).Recorded id) :
    world.Recorded id := by
  obtain ⟨other, member⟩ := recorded
  rcases withBinding_kept member with before | ⟨same, _⟩
  · exact ⟨other, before⟩
  · cases same
    exact absurd rfl old

/-- A new live property has read nothing yet. -/
structure LiveBinding.Begins (binding : LiveBinding) : Prop where
  subscriptions : binding.subscriptions = []
  watched : binding.watched = []
  busy : binding.busy = false

/-- The registrations agree with the records also when a live property has been
created, for it listens to nothing yet. -/
theorem Wired.withBinding (wired : world.Wired)
    (begins : LiveBinding.Begins binding) :
    (world.withBinding binding keeper).Wired := by
  have same := withBinding_sameObjects world binding keeper
  have before : ∀ {id : BindingId} {old : LiveBinding},
      (world.withBinding binding keeper).binding? id = some old →
        old = binding ∨ world.binding? id = some old := by
    intro id old found
    rw [withBinding_binding?] at found
    split at found
    · exact .inl (Option.some.inj found).symm
    · exact .inr found
  have unused : ∀ other, .binding ⟨world.bindings.size⟩ ∉ world.kept other := by
    intro other member
    rcases wired.keepers other _ member with ⟨_, _, equal⟩ | ⟨id, equal, inside⟩
    · cases equal
    · cases equal
      exact Nat.lt_irrefl _ inside
  refine {
    ordered := fun post => by
      rw [same.listenersAt]
      exact wired.ordered post
    heard := fun post number id generation property member => ?_
    records := fun id old found record member => ?_
    watched := fun id old found slot member => ?_
    keepers := fun other record member => ?_
    single := fun id first second left right => ?_ }
  · rw [same.listenersAt] at member
    obtain ⟨old, found, below, current⟩ :=
      wired.heard post number id generation property member
    refine ⟨old, withBinding_old found, below, fun now => ?_⟩
    obtain ⟨object, announced, watched⟩ := current now
    exact ⟨object, (same.announcer object).trans announced, watched⟩
  · rcases before found with rfl | foundBefore
    · rw [begins.subscriptions] at member
      cases member
    · obtain ⟨object, number, rfl, has, below, only⟩ :=
        wired.records id old foundBefore record member
      refine ⟨object, number, rfl, same.fits.has has, ?_, fun listener entry => ?_⟩
      · rw [same.announcer, same.listenersAt]
        exact below
      · rw [same.announcer, same.listenersAt] at entry
        exact only listener entry
  · rcases before found with rfl | foundBefore
    · rw [begins.watched] at member
      cases member
    · have known := wired.watched id old foundBefore slot member
      exact ⟨same.fits.has known.1, known.2⟩
  · rw [withBinding_count]
    rcases withBinding_kept member with old | ⟨rfl, _⟩
    · rcases wired.keepers other record old with list | ⟨id, rfl, inside⟩
      · exact .inl list
      · exact .inr ⟨id, rfl, Nat.lt_succ_of_lt inside⟩
    · exact .inr ⟨_, rfl, Nat.lt_succ_self _⟩
  · rcases withBinding_kept left with old | ⟨isNew, rfl⟩
    · rcases withBinding_kept right with otherOld | ⟨isNew, rfl⟩
      · exact wired.single id first second old otherOld
      · rw [isNew] at old
        exact absurd old (unused first)
    · rcases withBinding_kept right with otherOld | ⟨_, rfl⟩
      · rw [isNew] at otherOld
        exact absurd otherOld (unused second)
      · rfl

/-- A live property has begun: it is left out until it has been evaluated. -/
theorem Settled.begin {roots : List Owned}
    (settled : Settled none roots world [] [])
    (begins : LiveBinding.Begins binding)
    (held : world.Held roots binding.widget)
    (handle : binding.handle.index < world.handles.size)
    (widget : binding.widget.index < world.widgets.size)
    (scope : binding.scope.Known world world.loaded)
    (keeper : SubscriptionKeeper) :
    Settled (some ⟨world.bindings.size⟩) roots
      (world.withBinding binding keeper) [] [] := by
  have same := withBinding_sameObjects world binding keeper
  have later := withBinding_later world binding keeper
  have before : ∀ {id : BindingId} {old : LiveBinding},
      (world.withBinding binding keeper).binding? id = some old →
        (old = binding ∧ id.index = world.bindings.size) ∨
          (id.index ≠ world.bindings.size ∧ world.binding? id = some old) := by
    intro id old found
    rw [withBinding_binding?] at found
    split at found
    case isTrue here => exact .inl ⟨(Option.some.inj found).symm, here⟩
    case isFalse elsewhere => exact .inr ⟨elsewhere, found⟩
  have apart : ∀ {id : BindingId},
      some (⟨world.bindings.size⟩ : BindingId) ≠ some id →
      id.index ≠ world.bindings.size := by
    rintro ⟨index⟩ different rfl
    exact different rfl
  have mono : ∀ id,
      world.Held roots id → (world.withBinding binding keeper).Held roots id :=
    fun id held => held.mono (List.Subset.refl _) same.children
  refine {
    sound := ?_
    wired := settled.wired.withBinding begins
    held := fun id old found => ?_
    heldBlocks := fun id block found => ?_
    covered := fun id other recorded old found slot member => ?_
    resolved := fun id old other found name member => ?_
    busy := fun id => ⟨nofun, ?_⟩
    distinct := .nil
    chain := nofun
    fresh := fun id other recorded eligible => ?_ }
  · rw [same.environment.2.2.2.2.1]
    refine same.sound settled.sound (fun id old found => ?_)
      fun id block found => ?_
    · rcases before found with ⟨rfl, _⟩ | ⟨_, foundBefore⟩
      · exact .inr ⟨handle, widget, scope⟩
      · exact .inl ⟨old, foundBefore, rfl, rfl, rfl⟩
    · exact .inl ⟨block, by cases keeper <;> exact found, rfl, rfl, rfl⟩
  · rcases before found with ⟨rfl, _⟩ | ⟨_, foundBefore⟩
    · exact mono _ held
    · exact mono _ (settled.held id old foundBefore)
  · exact mono _ (settled.heldBlocks id block (by cases keeper <;> exact found))
  · rcases before found with ⟨rfl, here⟩ | ⟨_, foundBefore⟩
    · exact absurd here (apart other)
    · rw [same.announcer, same.listenersAt]
      exact settled.covered id nofun
        (withBinding_recorded (apart other) recorded) old
        foundBefore slot member
  · rcases before found with ⟨rfl, here⟩ | ⟨_, foundBefore⟩
    · exact absurd here (apart other)
    · obtain ⟨node, stands⟩ := settled.resolved id old nofun foundBefore name member
      exact ⟨node, later.agrees.nodes _ _ _
        (settled.sound.bindings id old foundBefore).1 stands⟩
  · rintro ⟨old, found, busy⟩
    rcases before found with ⟨rfl, _⟩ | ⟨_, foundBefore⟩
    · rw [begins.busy] at busy
      cases busy
    · exact (settled.busy id).mpr ⟨old, foundBefore, busy⟩
  · have eligibleBefore : world.Eligible id := fun old found slot member =>
      same.plain (eligible old (withBinding_old found) slot member)
    rcases settled.fresh id nofun (withBinding_recorded (apart other) recorded)
      eligibleBefore with fresh | circular | ⟨_, waits, _⟩
    · refine .inl (fresh.carry later (fun old found => ?_) fun _ _ slot _ =>
        same.sees slot)
      rcases before found with ⟨rfl, here⟩ | ⟨_, foundBefore⟩
      · exact absurd here (apart other)
      · exact ⟨old, foundBefore, rfl⟩
    · exact .inr (.inl (later.circular settled.sound circular))
    · cases waits

/-! ## Properties of new widgets -/

variable {deliver : Deliver σ} {bound : Nat} {roots : List Owned}

/-- Part of a document was built, and the live properties are settled. -/
structure Built (roots : List Owned) (handle : HandleId) (names : List String)
    (world after : World σ) : Prop where
  settled : Settled none roots after [] []
  builds : Builds handle names world after
  pins : after.pins = world.pins

theorem Served.built (served : Served roots [] [] world after) (handle : HandleId) :
    Built roots handle [] world after :=
  ⟨served.settled, served.stays.builds handle, served.pins⟩

/-- An expression is evaluated without listening. -/
theorem Settled.evaluateOnce {stack : List BindingId}
    {pending : List Callback}
    (settled : Settled none roots world stack pending) {handle : HandleId}
    {scope : Scope} (knownHandle : handle.index < world.handles.size)
    (knownScope : scope.Known world world.loaded) {expr : Expr}
    {value : Value}
    (success :
      (EvaluationContext.eval ⟨some handle, scope, none⟩ expr).run world =
        (.ok value, after)) :
    Served roots stack pending world after ∧
    value.Known after after.loaded := by
  have ready : (⟨some handle, scope, none⟩ : EvaluationContext).Ready world :=
    ⟨settled.sound, settled.wired,
      fun _ same => by cases same; exact knownHandle, knownScope⟩
  have follows :
      Follows ⟨some handle, scope, none⟩ 0 0 expr.aliases
        (Value.renumber (Value.shift 0 0))
        (fun after value => value.Known after after.loaded) world
        (EvaluationContext.eval ⟨some handle, scope, none⟩ expr)
        (EvaluationContext.eval ⟨some handle, scope, none⟩ expr) :=
    follows_eval expr world ready
  have watches := follows.watches
  have known := follows.known value
  rw [success] at watches known
  exact ⟨settled.reads watches, known rfl⟩

/-- A property of a new widget is set. -/
theorem Serves.buildProperty (serves : Serves deliver bound)
    (keeps : ∀ callback, Action.Keeps (deliver callback)) {handle : HandleId}
    (keeper : SubscriptionKeeper) {widget : WidgetId} {scope : Scope}
    {property : Property} (settled : Settled none roots world [] [])
    (rooted : world.Rooted roots) (held : world.Held roots widget)
    (knownHandle : handle.index < world.handles.size)
    (knownWidget : widget.index < world.widgets.size)
    (knownScope : scope.Known world world.loaded)
    (success :
      (buildProperty deliver handle keeper widget scope property).run world =
        (.ok (), after)) (room : after.bindings.size < bound) :
    Built roots handle [] world after := by
  have applies : ∀ (middle : World σ) (value : Value),
      Settled none roots middle [] [] → middle.Rooted roots →
      value.Known middle middle.loaded →
      (LiveMarkup.applyProperty deliver widget property.key value).run middle =
        (.ok (), after) →
      Served roots [] [] middle after := by
    intro middle value settledMiddle rootedMiddle known applied
    have grown :=
      within_applyProperty (within_notify fun callback _ => keeps callback)
        widget property.key value middle
    rw [applied] at grown
    have causes : middle.Causes [] widget property.key := nofun
    have served := serves.applyProperty settledMiddle rootedMiddle
      (Nat.lt_of_le_of_lt grown room) causes known
    rwa [applied] at served
  unfold LiveMarkup.buildProperty at success
  split at success
  · obtain ⟨value, middle, evaluated, applied⟩ := Attempt.bind_ok success
    obtain ⟨served, known⟩ := settled.evaluateOnce knownHandle knownScope evaluated
    exact (served.trans (applies middle value served.settled
      (served.stays.rooted served.pins rooted) known applied)).built handle
  · obtain ⟨id, created, creates, recorded⟩ := Attempt.bind_ok success
    obtain ⟨_, begun, keepsRecord, evaluatesFirst⟩ := Attempt.bind_ok recorded
    obtain ⟨value, middle, evaluated, applied⟩ := Attempt.bind_ok evaluatesFirst
    cases creates
    cases keepsRecord
    generalize shape :
        (⟨handle, widget, property.key, property.value, scope, [], 0, false, [],
           [], none⟩ : LiveBinding) = binding at evaluated
    have begins : LiveBinding.Begins binding := shape ▸ ⟨rfl, rfl, rfl⟩
    have started :
        Settled (some ⟨world.bindings.size⟩) roots
          (world.withBinding binding keeper) [] [] := by
      refine settled.begin begins ?_ ?_ ?_ ?_ keeper <;> rw [← shape] <;> assumption
    have found :
        (world.withBinding binding keeper).binding? ⟨world.bindings.size⟩ =
          some binding := by
      rw [withBinding_binding?, if_pos rfl]
    have objects := withBinding_sameObjects world binding keeper
    have pins : (world.withBinding binding keeper).pins = world.pins := by
      cases keeper <;> rfl
    have heldSame : (world.withBinding binding keeper).held = world.held := by
      cases keeper <;> rfl
    change (BindingId.evaluate ⟨world.bindings.size⟩).run
      (world.withBinding binding keeper) = (.ok value, middle) at evaluated
    obtain ⟨settledMiddle, evaluates, known⟩ :=
      started.evaluate found (.inr ⟨value, by rw [evaluated]⟩)
    rw [evaluated] at settledMiddle evaluates known
    have rootedMiddle : middle.Rooted roots := by
      refine evaluates.stays.rooted evaluates.pins fun thing member => ?_
      rw [heldSame, pins]
      exact rooted thing member
    have served :=
      applies middle value settledMiddle rootedMiddle (known value rfl) applied
    exact {
      settled := served.settled
      builds :=
        ((objects.builds (withBinding_later world binding keeper) heldSame
          handle).unnamed
        (evaluates.stays.builds handle)).unnamed (served.stays.builds handle)
      pins := served.pins.trans (evaluates.pins.trans pins) }

end LiveMarkup.World
