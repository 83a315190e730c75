import LiveMarkup.Proofs.Traces.Loops

/-!
# New documents

A new document gets a handle, which names its aliases, imports and root, and
keeps the records of what is built for it until it is torn down.
-/

namespace LiveMarkup.World

variable {σ : Type} {start world middle after : World σ} {host : WidgetId}
  {pending : List Subscription}

/-! ## Changes of a handle -/

theorem kept_updateHandle (world : World σ) (id : HandleId)
    {change : Handle → Handle}
    (same : ∀ old, (change old).subscriptions = old.subscriptions)
    (keeper : SubscriptionKeeper) :
    (world.updateHandle id change).kept keeper = world.kept keeper := by
  cases keeper with
  | item => rfl
  | handle other =>
    exact handle_project world id other change Handle.subscriptions same

theorem announcer_updateHandle (world : World σ) (id : HandleId)
    {change : Handle → Handle}
    (controller : ∀ old, (change old).controller = old.controller)
    (object : ObjectId) :
    (world.updateHandle id change).announcer object =
      world.announcer object := by
  cases object with
  | bag => rfl
  | widget => rfl
  | handle other =>
    simp only [World.announcer, handle_updateHandle]
    split
    · rw [controller]
    · rfl

/-- What a new document may come to name: widgets and documents that there are,
and a new root, in place of none that is below an old widget.  A change need only
speak of what it touches. -/
structure Recasts (start world : World σ) (id : HandleId)
    (change : Handle → Handle) : Prop where
  controller : ∀ old, (change old).controller = old.controller := by
    exact fun _ => rfl
  nodes : ∀ entry ∈ (change (world.handle id)).nodes,
      entry ∈ (world.handle id).nodes ∨ entry.2.index < world.widgets.size := by
    exact fun _ member => .inl member
  imports : ∀ entry ∈ (change (world.handle id)).imports,
      entry ∈ (world.handle id).imports ∨
      entry.2.index < world.handles.size := by
    exact fun _ member => .inl member
  roots : ∀ root, (change (world.handle id)).root = some root →
      (world.handle id).root = some root ∨
      start.widgets.size ≤ root.index := by
    exact fun _ found => .inl found
  stays : ∀ root, (world.handle id).root = some root →
      (change (world.handle id)).root = some root ∨
      ∀ widget : WidgetId, widget.index < start.widgets.size →
        root ∉ (world.widget widget).children := by
    exact fun _ found => .inl found

/-- The root of a new document changes: to a new widget, and not if it is below
an old one. -/
theorem AddsWidgets.updateHandle {id : HandleId} {change : Handle → Handle}
    (adds : AddsWidgets host start world)
    (new : start.handles.size ≤ id.index)
    (recasts : Recasts start world id change) :
    AddsWidgets host start (world.updateHandle id change) := by
  refine { adds with
    handleCount := by
      rw [World.updateHandle, Store.size_update]
      exact adds.handleCount
    oldHandles := fun other old => ?_
    roots := fun other root newOther found => ?_
    attached := fun widget old child member newChild => ?_ }
  · rw [handle_updateHandle, if_neg]
    · exact adds.oldHandles other old
    · rintro ⟨rfl, _⟩
      exact absurd old (Nat.not_lt.mpr new)
  · rw [handle_updateHandle] at found
    split at found
    case isTrue here =>
      obtain ⟨rfl, _⟩ := here
      rcases recasts.roots root found with old | newRoot
      · exact adds.roots id root new old
      · exact newRoot
    case isFalse => exact adds.roots other root newOther found
  · obtain ⟨same, parent, handle, newHandle, root⟩ :=
      adds.attached widget old child member newChild
    refine ⟨same, parent, handle, newHandle, ?_⟩
    rw [handle_updateHandle]
    split
    case isTrue here =>
      obtain ⟨rfl, _⟩ := here
      exact (recasts.stays child root).resolve_right fun none =>
        none widget old member
    case isFalse => exact root

/-- A new document has changed, and all records are accounted for. -/
theorem Additions.changeHandle {more : List Subscription} {id : HandleId}
    {change : Handle → Handle}
    (additions : Additions host start pending world)
    (new : start.handles.size ≤ id.index)
    (recasts : Recasts start world id change)
    (kept :
      ∀ keeper, (world.updateHandle id change).kept keeper ⊆ world.kept keeper)
    (accounted :
      ∀ record,
        Accounted start world pending record →
        Accounted start (world.updateHandle id change) more record) :
    Additions host start more (world.updateHandle id change) := by
  have fits := fits_updateHandle world id change
  have announcer := announcer_updateHandle world id recasts.controller
  have named : NamesKnown world.loaded world (world.updateHandle id change) :=
    .updateHandle recasts.controller recasts.nodes recasts.imports
  refine ⟨?_, ?_, ?_, ?_, ?_, additions.widgets.updateHandle new recasts⟩
  · exact additions.sound.extend named
  · refine additions.wired.carry fits rfl (fun _ => rfl)
      (fun object _ => announcer object) ?_
    intro keeper _ member
    exact .inl (kept keeper member)
  · exact additions.listeners.same (fun _ => rfl) rfl
      (fun _ _ _ object _ _ => announcer object) fun _ => accounted _
  · refine additions.loops.same (fun _ => rfl) (fun _ _ => accounted _) ?_
    intro keeper _ record member
    exact .inl (kept keeper member)
  · exact additions.items.same rfl rfl fun _ => List.Subset.refl _

/-- What a new document names has changed. -/
theorem Good.updateHandle {id : HandleId} {change : Handle → Handle}
    (good : Good host start world) (new : start.handles.size ≤ id.index)
    (recasts : Recasts start world id change)
    (subscriptions : ∀ old, (change old).subscriptions = old.subscriptions) :
    Good host start (world.updateHandle id change) := by
  have kept := kept_updateHandle world id subscriptions
  refine ⟨good.tidy, good.additions.changeHandle new recasts ?_ ?_,
    ⟨good.swept.blocks, good.swept.items⟩, good.pins⟩
  · intro keeper
    rw [kept]
    exact List.Subset.refl _
  · intro record accounted
    refine accounted.mono .inl fun keeper newKeeper member => ?_
    exact .inr ⟨keeper, newKeeper, (kept keeper).symm ▸ member⟩

/-- The records of a new document are about to be undone. -/
theorem Additions.clearHandle {id : HandleId}
    (additions : Additions host start [] world)
    (new : start.handles.size ≤ id.index) :
    Additions host start (world.kept (.handle id))
      (world.updateHandle id fun old => { old with subscriptions := [] }) := by
  refine additions.changeHandle new {} (fun keeper record member => ?_)
    fun record accounted => ?_
  · cases keeper with
    | item => exact member
    | handle other =>
      simp only [World.kept, handle_updateHandle] at member
      split at member
      · cases member
      · exact member
  · refine accounted.mono (fun none => by cases none)
      fun keeper newKeeper member => ?_
    by_cases own : keeper = .handle id
    · exact .inl (own ▸ member)
    · refine .inr ⟨keeper, newKeeper, ?_⟩
      cases keeper with
      | item => exact member
      | handle other =>
        have apart : id ≠ other := fun same => own (same ▸ rfl)
        simpa only [World.kept, handle_updateHandle, apart, false_and, if_false]
          using member

theorem Additions.cancelHandle {id : HandleId}
    (additions : Additions host start [] world)
    (new : start.handles.size ≤ id.index) :
    Additions host start [] (world.cancelHandle id) :=
  .cancels _ _ (additions.clearHandle new)
    (additions.loops.records (.handle id) new)

/-- What a document is after its subscriptions have ended. -/
theorem handle_cancelHandle (world : World σ) (id other : HandleId) :
    (world.cancelHandle id).handle other =
      if id = other then { world.handle other with subscriptions := [] }
      else world.handle other := by
  have rest :
      Loosens (world.updateHandle id fun old =>
        { old with subscriptions := [] }) (world.cancelHandle id) :=
    loosens_cancels _ _
  have handles : (world.cancelHandle id).handle other =
        (world.updateHandle id fun old =>
          { old with subscriptions := [] }).handle other := by
    rw [rest]
    rfl
  rw [handles, handle_updateHandle]
  by_cases same : id = other
  · subst same
    by_cases inside : id.index < world.handles.size
    · simp [inside]
    · simp only [inside, and_false, if_false, if_true, handle_of_not_lt inside]
      rfl
  · simp [same]

/-- A widget is given an alias, in place of an earlier one of that name. -/
theorem Good.registerNode (good : Good host start world) {id : HandleId}
    (new : start.handles.size ≤ id.index) (aliasName : String)
    (widget : WidgetId) (inside : widget.index < world.widgets.size) :
    Grows host start world
      ((LiveMarkup.registerNode id aliasName widget : Action σ Unit)
        world).2 := by
  refine ⟨?_, good.updateHandle new { nodes := fun entry member => ?_ }
    fun _ => rfl, rfl⟩
  · refine {
      fits := fits_updateHandle world id _
      handleCount := Store.size_update ..
      handles := fun other => ?_ }
    have registered := handle_updateHandle world id other fun old =>
      { old with nodes := putEntry aliasName widget old.nodes }
    rw [LiveMarkup.registerNode, Action.modify_apply, registered]
    split <;> exact ⟨rfl, rfl, rfl, fun _ => rfl⟩
  · rcases mem_putEntry member with old | rfl
    · exact .inl old
    · exact .inr inside

/-- A document gets a handle of its own. -/
theorem Good.createHandle (good : Good host start world) (name : String)
    {controller : Controller}
    (known : controller.state.index < world.bags.size) :
    Good host start ((HandleId.create name controller : Action σ HandleId)
      world).2 := by
  have alters := (furnishes_createHandle world name known).toAlters
  have outside : ∀ id : HandleId,
      id.index = world.handles.size → world.handle id = default :=
    fun id here => handle_of_not_lt (Nat.not_lt.mpr (Nat.le_of_eq here.symm))
  have kept : ∀ keeper,
      ((HandleId.create name controller : Action σ HandleId) world).2.kept
        keeper = world.kept keeper := by
    intro keeper
    cases keeper with
    | item => rfl
    | handle id =>
      simp only [World.kept, handle_create]
      split
      case isTrue here => rw [outside id here]; rfl
      case isFalse => rfl
  have root : ∀ id,
      (((HandleId.create name controller : Action σ HandleId) world).2.handle
        id).root = (world.handle id).root := by
    intro id
    rw [handle_create]
    split
    case isTrue here => rw [outside id here]; rfl
    case isFalse => rfl
  have accounted : ∀ {record},
      Accounted start world [] record →
      Accounted start ((HandleId.create name controller : Action σ HandleId)
        world).2 [] record :=
    fun accounted => accounted.mono .inl fun keeper newKeeper member =>
      .inr ⟨keeper, newKeeper, (kept keeper).symm ▸ member⟩
  have adds := good.additions.widgets
  refine ⟨good.tidy,
    ⟨alters.sound good.additions.sound, alters.wired good.additions.wired, ?_,
      ?_, good.additions.items.same rfl rfl fun _ => List.Subset.refl _, ?_⟩,
    ⟨good.swept.blocks, good.swept.items⟩, good.pins⟩
  · refine good.additions.listeners.same alters.listeners rfl
      (fun id binding found object number recorded => ?_) fun _ => accounted
    obtain ⟨_, _, same, has, _⟩ :=
      good.additions.wired.records id binding found _ recorded
    cases same
    exact alters.announcer has
  · refine good.additions.loops.same (fun _ => rfl) (fun _ _ => accounted) ?_
    intro keeper _ record member
    exact .inl (kept keeper ▸ member)
  · refine { adds with
      handleCount := ?_
      oldHandles := fun id old => ?_
      roots :=
        fun id rootWidget new found =>
          adds.roots id rootWidget new ((root id).symm.trans found)
      attached := fun id old child member new => ?_ }
    · rw [HandleId.create, Store.size_add]
      exact Nat.le_succ_of_le adds.handleCount
    · rw [handle_create,
        if_neg (Nat.ne_of_lt (Nat.lt_of_lt_of_le old adds.handleCount))]
      exact adds.oldHandles id old
    · obtain ⟨same, parent, handle, newHandle, found⟩ :=
        adds.attached id old child member new
      exact ⟨same, parent, handle, newHandle, (root handle).trans found⟩

end LiveMarkup.World
