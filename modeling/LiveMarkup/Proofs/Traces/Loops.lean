import LiveMarkup.Proofs.Traces.Trees

/-!
# New loops and items

Loops and items come with an owner: an operation in progress, a list, a live
item or a live loop.  A loop that belongs to an item comes later than the loop
that the item belongs to.
-/

namespace LiveMarkup.World

variable {σ : Type} {start world middle after : World σ} {host : WidgetId}
  {pending : List Subscription} {keeper : SubscriptionKeeper}
    {record : Subscription}

/-! ## Owners -/

/-- Owners keep what they own. -/
structure Retains (world after : World σ) : Prop where
  pins : ∀ thing : Owned, thing.Repeats → thing ∈ world.pins → thing ∈ after.pins
  listeners :
      ∀ id,
        (world.list id).listeners.entries ⊆ (after.list id).listeners.entries
  items : ∀ id, (world.item id).live = true → (after.item id).live = true ∧
    (world.item id).nested ⊆ (after.item id).nested
  blocks : ∀ id block,
      world.block? id = some block → block.live = true →
      ∃ later,
        after.block? id = some later ∧ later.live = true ∧
        block.items ⊆ later.items

theorem Retains.swept (retains : Retains world after) (swept : world.Swept)
    (blocks :
      ∀ id block,
        after.block? id = some block → block.live = true →
          (∃ old, world.block? id = some old ∧ old.live = true) ∨
          after.ownsBlock id = true)
    (items :
      ∀ id,
        (after.item id).live = true →
        (world.item id).live = true ∨ after.ownsItem id = true) :
    after.Swept where
  blocks id block found live := by
    rcases blocks id block found live with ⟨old, foundOld, liveOld⟩ | owned
    · rcases ownsBlock_cases (swept.blocks id old foundOld liveOld) with
        pinned | ⟨list, number, listens⟩ | ⟨item, liveItem, nested⟩
      · exact ownsBlock_of_pin (retains.pins _ trivial pinned)
      · exact ownsBlock_of_listener (retains.listeners list listens)
      · have kept := retains.items item liveItem
        exact ownsBlock_of_item kept.1 (kept.2 nested)
    · exact owned
  items id live := by
    rcases items id live with liveOld | owned
    · rcases ownsItem_cases (swept.items id liveOld) with pinned |
        ⟨outer, block, found, lives, member⟩
      · exact ownsItem_of_pin (retains.pins _ trivial pinned)
      · obtain ⟨later, foundLater, liveLater, more⟩ :=
          retains.blocks outer block found lives
        exact ownsItem_of_block foundLater liveLater (more member)
    · exact owned

/-! ## Records -/

/-- Who keeps the records of what is built: someone new who is there, and stays. -/
def Ready (start world : World σ) : SubscriptionKeeper → Prop
  | .handle id => start.handles.size ≤ id.index ∧ id.index + 1 = world.handles.size
  | .item id =>
    start.items.size ≤ id.index ∧ (world.item id).live = true ∧
    .item id ∈ world.pins

theorem Ready.new (ready : Ready start world keeper) : NewKeeper start keeper := by
  cases keeper <;> exact ready.1

theorem Ready.frame (ready : Ready start world keeper) (frame : Frame world after) :
    Ready start after keeper := by
  cases keeper with
  | handle id => exact ⟨ready.1, ready.2.trans frame.handleCount.symm⟩
  | item id =>
    have kept := frame.items id ready.2.2
    exact ⟨ready.1, kept.2 ready.2.1, kept.1⟩

/-- A new record is kept by its keeper alone. -/
theorem kept_keepSubscription (world : World σ) (keeper : SubscriptionKeeper)
    (record : Subscription) (other : SubscriptionKeeper) :
    (world.keepSubscription keeper record).kept other = world.kept other ∨
    (other = keeper ∧
     (world.keepSubscription keeper record).kept other =
       world.kept other ++ [record]) := by
  cases keeper with
  | handle id =>
    cases other with
    | item => exact .inl rfl
    | handle other =>
      simp only [World.kept, keepSubscription, handle_updateHandle]
      split
      case isTrue here => exact .inr ⟨congrArg _ here.1.symm, rfl⟩
      case isFalse => exact .inl rfl
  | item id =>
    cases other with
    | handle => exact .inl rfl
    | item other =>
      simp only [World.kept, keepSubscription, item_updateItem]
      split
      case isTrue here => exact .inr ⟨congrArg _ here.1.symm, rfl⟩
      case isFalse => exact .inl rfl

theorem kept_subset (world : World σ) (keeper : SubscriptionKeeper)
    (record : Subscription) (other : SubscriptionKeeper) :
    world.kept other ⊆ (world.keepSubscription keeper record).kept other := by
  rcases kept_keepSubscription world keeper record other
    with same | ⟨_, same⟩ <;> rw [same]
  · exact List.Subset.refl _
  · exact List.subset_append_left ..

theorem mem_keepSubscription {other : SubscriptionKeeper} {entry : Subscription}
    (member : entry ∈ (world.keepSubscription keeper record).kept other) :
    entry ∈ world.kept other ∨ (other = keeper ∧ entry = record) := by
  rcases kept_keepSubscription world keeper record other with same | ⟨own, same⟩ <;>
    rw [same] at member
  · exact .inl member
  · refine (List.mem_append.mp member).imp_right ?_
    intro last
    exact ⟨own, List.mem_singleton.mp last⟩

theorem Ready.keeps (ready : Ready start world keeper) (record : Subscription) :
    record ∈ (world.keepSubscription keeper record).kept keeper := by
  cases keeper with
  | handle id =>
    have inside : id.index < world.handles.size := ready.2 ▸ Nat.lt_succ_self _
    simp only [World.kept, keepSubscription, handle_updateHandle, inside,
      and_self, if_true]
    exact List.mem_append_right _ (List.mem_singleton_self _)
  | item id =>
    have inside := item_inside ready.2.1
    simp only [World.kept, keepSubscription, item_updateItem, inside,
      and_self, if_true]
    exact List.mem_append_right _ (List.mem_singleton_self _)

theorem item_keepSubscription (world : World σ) (keeper : SubscriptionKeeper)
    (record : Subscription) (id : ItemId) :
    (world.keepSubscription keeper record).item id =
      { world.item id with subscriptions :=
        (world.keepSubscription keeper record).kept (.item id) } := by
  cases keeper with
  | handle => rfl
  | item other =>
    simp only [World.kept, keepSubscription, item_updateItem]
    split <;> rfl

theorem handle_keepSubscription (world : World σ)
    (keeper : SubscriptionKeeper) (record : Subscription) (id : HandleId) :
    (world.keepSubscription keeper record).handle id =
      { world.handle id with subscriptions :=
        (world.keepSubscription keeper record).kept (.handle id) } := by
  cases keeper with
  | item => rfl
  | handle other =>
    simp only [World.kept, keepSubscription, handle_updateHandle]
    split <;> rfl

theorem keepSubscription_rest (world : World σ) (keeper : SubscriptionKeeper)
    (record : Subscription) :
    world.keepSubscription keeper record = { world with
      handles := (world.keepSubscription keeper record).handles
      items := (world.keepSubscription keeper record).items } ∧
      (world.keepSubscription keeper record).handles.size = world.handles.size ∧
        (world.keepSubscription keeper record).items.size = world.items.size := by
  cases keeper with
  | handle => exact ⟨rfl, Store.size_update .., rfl⟩
  | item => exact ⟨rfl, rfl, Store.size_update ..⟩

/-- A record is kept by someone new; if it is one of a list, its loop comes late
enough. -/
theorem AddsItems.keep (adds : AddsItems start world)
    (ready : Ready start world keeper)
    (climbs :
      ∀ item,
        keeper = .item item →
        ∀ list number inner,
          record = .list list number →
          (number, ListListener.block inner) ∈
            (world.list list).listeners.entries →
          ∀ outer block,
            world.block? outer = some block → item ∈ block.items →
            outer.index < inner.index) :
    AddsItems start (world.keepSubscription keeper record) := by
  obtain ⟨rest, _, itemCount⟩ := keepSubscription_rest world keeper record
  have lists :
      ∀ id, (world.keepSubscription keeper record).list id = world.list id := by
    intro id
    rw [rest]
    rfl
  have blocks :
      ∀ id,
        (world.keepSubscription keeper record).block? id = world.block? id :=
    fun id => by
      rw [rest]
      rfl
  have blockStore :
      (world.keepSubscription keeper record).blocks = world.blocks := by
    rw [rest]
  refine {
    blockCount := blockStore ▸ adds.blockCount
    itemCount := itemCount ▸ adds.itemCount
    oldItems := fun id old => ?_
    oldBlocks := fun id old => (blocks id).trans (adds.oldBlocks id old)
    items := fun id new => ?_
    blocks := fun id block new found => ?_
    climbs := fun id block new found item member inner contains => ?_ }
  · have same : (world.keepSubscription keeper record).kept (.item id) =
          world.kept (.item id) := by
      rcases kept_keepSubscription world keeper record (.item id)
        with same | ⟨own, _⟩
      · exact same
      · cases own
        exact absurd old (Nat.not_lt.mpr ready.1)
    rw [item_keepSubscription, same]
    exact adds.oldItems id old
  · have before := adds.items id new
    rw [item_keepSubscription]
    refine ⟨before.1, before.2.1, fun dead => ?_⟩
    rcases kept_keepSubscription world keeper record (.item id) with same | ⟨own, _⟩
    · simp only [same]
      exact before.2.2 dead
    · cases own
      exact absurd ready.2.1 (Bool.eq_false_iff.mp dead)
  · rw [blocks] at found
    rw [itemCount]
    exact adds.blocks id block new found
  · rw [blocks] at found
    rcases contains with nested | ⟨list, number, recorded, listens⟩
    · rw [item_keepSubscription] at nested
      exact adds.climbs id block new found item member inner (.inl nested)
    · rw [lists] at listens
      have kept :
          .list list number ∈
            (world.keepSubscription keeper record).kept (.item item) :=
        recorded
      rcases mem_keepSubscription kept with before | ⟨own, same⟩
      · exact adds.climbs id block new found item member inner
          (.inr ⟨list, number, before, listens⟩)
      · exact climbs item own.symm list number inner same.symm listens id block
          found member

/-- Keeping one more record leaves every new widget in order. -/
theorem AddsWidgets.keep (adds : AddsWidgets host start world)
    (ready : Ready start world keeper) (record : Subscription) :
    AddsWidgets host start (world.keepSubscription keeper record) := by
  obtain ⟨rest, handleCount, _⟩ := keepSubscription_rest world keeper record
  have widgets :
      (world.keepSubscription keeper record).widgets = world.widgets := by
    rw [rest]
  have tops : (world.keepSubscription keeper record).topControllers =
        world.topControllers := by
    rw [rest]
  refine adds.same (congrArg Store.size widgets) (fun id => ?_) handleCount
    (fun id old => ?_) (fun id => ?_) tops
  · simp only [World.widget, widgets, and_self]
  · rw [handle_keepSubscription]
    rcases kept_keepSubscription world keeper record (.handle id)
      with same | ⟨own, _⟩
    · rw [same]
      rfl
    · cases own
      exact absurd old (Nat.not_lt.mpr ready.1)
  · rw [handle_keepSubscription]

theorem Ready.frame_keep (ready : Ready start world keeper)
    (record : Subscription) :
    Frame world (world.keepSubscription keeper record) := by
  obtain ⟨rest, handleCount, itemCount⟩ := keepSubscription_rest world keeper record
  refine ⟨⟨?_, ?_, ?_, Nat.le_of_eq handleCount.symm⟩, ?_, handleCount,
    fun id => ?_, ?_, ?_, Nat.le_of_eq itemCount.symm,
    fun id pinned => ⟨?_, fun live => ?_⟩,
    fun id _ outer block found member => ⟨block, ?_, member⟩⟩
  · rw [rest]
  · rw [rest]
  · rw [rest]
  · rw [rest]
  · rw [handle_keepSubscription]
    refine ⟨rfl, rfl, rfl, fun earlier => ?_⟩
    rcases kept_keepSubscription world keeper record (.handle id)
      with same | ⟨own, _⟩
    · exact same
    · subst own
      exact absurd ready.2 (Nat.ne_of_lt earlier)
  · rw [rest]
  · rw [rest]
  · rw [rest]
    exact pinned
  · rw [item_keepSubscription]
    exact live
  · rw [rest] at found
    exact found

theorem retains_keep (world : World σ) (keeper : SubscriptionKeeper)
    (record : Subscription) :
    Retains world (world.keepSubscription keeper record) := by
  obtain ⟨rest, _, _⟩ := keepSubscription_rest world keeper record
  refine ⟨fun thing _ pinned => ?_, fun id => ?_, fun id live => ?_,
    fun id block found live =>
      ⟨block, ?_, live, List.Subset.refl _⟩⟩
  · rw [rest]
    exact pinned
  · rw [rest]
    exact List.Subset.refl _
  · rw [item_keepSubscription]
    exact ⟨live, List.Subset.refl _⟩
  · rw [rest]
    exact found

/-! ## Live properties -/

/-- A new live property begins, on record with someone new. -/
theorem Good.begin (good : Good host start world) {binding : LiveBinding}
    (begins : LiveBinding.Begins binding) (ready : Ready start world keeper)
    (handle : binding.handle.index < world.handles.size)
    (widget :
      start.widgets.size ≤ binding.widget.index ∧
      binding.widget.index < world.widgets.size)
    (scope : binding.scope.Known world world.loaded) :
    Grows host start world (world.withBinding binding keeper) ∧
    start.bindings.size ≤ world.bindings.size ∧
    Accounted start (world.withBinding binding keeper) []
      (.binding ⟨world.bindings.size⟩) := by
  have adds := good.additions.listeners
  have objects := withBinding_sameObjects world binding keeper
  let base : World σ := { world with bindings := world.bindings.add binding }
  have readyBase : Ready start base keeper := by cases keeper <;> exact ready
  have before : ∀ {id : BindingId} {found : LiveBinding},
      (world.withBinding binding keeper).binding? id = some found →
        (id.index = world.bindings.size ∧ found = binding) ∨
        world.binding? id = some found := by
    intro id found same
    rw [withBinding_binding?] at same
    split at same
    case isTrue here => exact .inl ⟨here, (Option.some.inj same).symm⟩
    case isFalse => exact .inr same
  have subset :
      ∀ other,
        world.kept other ⊆ (world.withBinding binding keeper).kept other :=
    fun other record member => kept_subset base keeper _ other
      (by cases other <;> exact member)
  have accounted : ∀ {record}, Accounted start world [] record →
      Accounted start (world.withBinding binding keeper) [] record :=
    fun accounted => accounted.mono .inl fun other new member =>
      .inr ⟨other, new, subset other member⟩
  have lists :
      ∀ id, (world.withBinding binding keeper).list id = world.list id := by
    intro id
    cases keeper <;> rfl
  have pins : (world.withBinding binding keeper).pins = world.pins := by
    cases keeper <;> rfl
  have frameBase : Frame world base := {}
  refine ⟨⟨frameBase.trans (readyBase.frame_keep _),
    ⟨good.tidy, ?_, ?_, pins ▸ good.pins⟩, pins⟩, adds.bindingCount,
    .inr ⟨keeper, ready.new, readyBase.keeps _⟩⟩
  · refine ⟨?_, good.additions.wired.withBinding begins, ?_, ?_, ?_, ?_⟩
    · have loaded : (world.withBinding binding keeper).loaded = world.loaded :=
        objects.environment.2.2.2.2.1
      rw [loaded]
      refine objects.sound good.additions.sound (fun id found same => ?_)
        fun id block same =>
          .inl ⟨block, ?_, rfl, rfl, rfl⟩
      · rcases before same with ⟨_, rfl⟩ | old
        · exact .inr ⟨handle, widget.2, scope⟩
        · exact .inl ⟨found, old, rfl, rfl, rfl⟩
      · cases keeper <;> exact same
    · refine {
        bindingCount := ?_
        posts := fun post => ?_
        heard := fun post entry member later => ?_
        widgets := fun id found new same => ?_
        accounted := fun id found new same listens => ?_
        later := fun id found new same object number member => ?_ }
      · rw [withBinding_count]
        exact Nat.le_succ_of_le adds.bindingCount
      · rw [objects.listenersAt]
        exact adds.posts post
      · rw [objects.listenersAt] at member
        obtain ⟨id, found, object, generation, property, same, new, foundBefore,
          recorded, announced⟩ :=
          adds.heard post entry member later
        exact ⟨id, found, object, generation, property, same, new,
          withBinding_old foundBefore, recorded,
          (objects.announcer object).trans announced⟩
      · rcases before same with ⟨_, rfl⟩ | old
        · exact widget.1
        · exact adds.widgets id found new old
      · rcases before same with ⟨_, rfl⟩ | old
        · exact absurd begins.subscriptions listens
        · exact accounted (adds.accounted id found new old listens)
      · rw [objects.announcer]
        rcases before same with ⟨_, rfl⟩ | old
        · rw [begins.subscriptions] at member
          cases member
        · exact adds.later id found new old object number member
    · refine good.additions.loops.same (fun id => by rw [lists])
        (fun _ _ => accounted) fun other _ record member => ?_
      rcases withBinding_kept member with old | ⟨rfl, _⟩
      · exact .inl old
      · exact .inr ⟨_, rfl, adds.bindingCount⟩
    · exact AddsItems.keep (show AddsItems start base
        from good.additions.items.same rfl rfl fun _ =>
          List.Subset.refl _) readyBase fun _ _ _ _ _ same => by cases same
    · exact AddsWidgets.keep (show AddsWidgets host start base
        from good.additions.widgets.same rfl (fun _ => ⟨rfl, rfl, rfl⟩) rfl
        (fun _ _ => rfl) (fun _ => rfl) rfl) readyBase _
  · have sweptBase : base.Swept := ⟨good.swept.blocks, good.swept.items⟩
    obtain ⟨rest, _, _⟩ :=
      keepSubscription_rest base keeper (.binding ⟨world.bindings.size⟩)
    refine (retains_keep base keeper (.binding ⟨world.bindings.size⟩)).swept
      sweptBase (fun id block found live => .inl ⟨block, ?_, live⟩)
      fun id live => .inl ?_
    · rw [rest] at found
      exact found
    · rw [item_keepSubscription] at live
      exact live

/-! ## Loops -/

theorem alters_createBlock (world : World σ) {block : Block}
    (handle : block.handle.index < world.handles.size)
    (parent : block.parent.index < world.widgets.size)
    (scope : block.scope.Known world world.loaded) :
    Alters world ((BlockId.create block : Action σ BlockId) world).2 := by
  have same :
      SameObjects world ((BlockId.create block : Action σ BlockId) world).2 :=
    ⟨rfl, rfl, ⟨rfl, rfl, rfl, rfl, rfl, rfl⟩, rfl, fun _ => rfl, rfl,
      fun _ => ⟨rfl, rfl, rfl, rfl⟩⟩
  refine same.alters rfl
    (fun keeper record member => .inl (by cases keeper <;> exact member))
    fun id found foundAfter => ?_
  simp only [World.block?, BlockId.create, Store.get?_add] at foundAfter
  split at foundAfter
  · cases foundAfter
    exact .inr ⟨handle, parent, scope⟩
  · exact .inl ⟨found, foundAfter, rfl, rfl, rfl⟩

/-- A new loop without items comes, and an operation keeps it. -/
theorem Good.createBlock (good : Good host start world) {block : Block}
    (empty : block.items = [])
    (handle : block.handle.index < world.handles.size)
    (parent :
      start.widgets.size ≤ block.parent.index ∧
      block.parent.index < world.widgets.size)
    (scope : block.scope.Known world world.loaded) (things : List Owned) :
    Good host start (((BlockId.create block : Action σ BlockId) world).2.pin
      (.block ⟨world.blocks.size⟩ :: things)) ∧
    Frame world ((BlockId.create block : Action σ BlockId) world).2 := by
  have adds := good.additions.items
  let created := ((BlockId.create block : Action σ BlockId) world).2
  have newOrOld : ∀ id found,
      created.block? id = some found →
        (id.index = world.blocks.size ∧ found = block) ∨
        world.block? id = some found := by
    intro id found same
    simp only [created, World.block?, BlockId.create, Store.get?_add] at same
    split at same
    case isTrue here => exact .inl ⟨here, (Option.some.inj same).symm⟩
    case isFalse => exact .inr same
  have old : ∀ id found,
      world.block? id = some found → created.block? id = some found := by
    intro id found same
    simp only [created, World.block?, BlockId.create]
    rw [Store.get?_add_of_lt (Store.lt_size_of_get? same)]
    exact same
  have items : AddsItems start created := by
    refine { adds with
      blockCount := ?_
      oldBlocks := fun id before => ?_
      blocks := fun id found new same => ?_
      climbs := fun id found new same item member inner contains => ?_ }
    · simp only [created, BlockId.create, Store.size_add]
      exact Nat.le_succ_of_le adds.blockCount
    · have inside : id.index < world.blocks.size :=
        Nat.lt_of_lt_of_le before adds.blockCount
      rw [← adds.oldBlocks id before]
      exact Store.get?_add_of_lt inside
    · rcases newOrOld id found same with ⟨_, rfl⟩ | before
      · rw [empty]
        exact ⟨fun _ none => absurd none List.not_mem_nil, parent.1⟩
      · exact adds.blocks id found new before
    · rcases newOrOld id found same with ⟨_, rfl⟩ | before
      · rw [empty] at member
        cases member
      · exact adds.climbs id found new before item member inner contains
  have additions : Additions host start [] created :=
    good.additions.rearrange (alters_createBlock world handle parent.2 scope)
      items (fun _ => rfl) (fun keeper => by cases keeper <;> rfl) rfl rfl rfl
  have retains :
      Retains world (created.pin (.block ⟨world.blocks.size⟩ :: things)) :=
    ⟨fun _ _ member => List.mem_append_right _ member,
      fun _ => List.Subset.refl _, fun _ live => ⟨live, List.Subset.refl _⟩,
      fun id found same live =>
        ⟨found, old id found same, live, List.Subset.refl _⟩⟩
  refine ⟨⟨good.tidy, additions.sameState rfl rfl, retains.swept good.swept
    (fun id found same live => ?_) (fun _ live => .inl live),
    fun thing member => List.mem_append_right _ (good.pins thing member)⟩, ?_⟩
  · rcases newOrOld id found same with ⟨here, _⟩ | before
    · refine .inr (ownsBlock_of_pin ?_)
      have equal : id = ⟨world.blocks.size⟩ := by cases id; exact congrArg _ here
      rw [equal]
      exact List.mem_append_left _ (List.mem_cons_self ..)
    · exact .inl ⟨found, before, live⟩
  · refine {
      blockCount := ?_
      joins := fun id _ outer found same member => ?_ }
    · simp only [BlockId.create, Store.size_add]
      exact Nat.le_succ _
    · rcases newOrOld outer found same with ⟨_, rfl⟩ | before
      · rw [empty] at member
        cases member
      · exact ⟨found, before, member⟩

/-- A new loop listens to a list that there is; the record of it is kept by
someone new, and by an item only if all loops that the item belongs to came
before. -/
theorem Good.listen (good : Good host start world) {list : ListId}
    (inside : list.index < world.lists.size) (block : BlockId)
    (new : start.blocks.size ≤ block.index) (ready : Ready start world keeper)
    (late :
      ∀ item,
        keeper = .item item →
        ∀ outer found,
          world.block? outer = some found → item ∈ found.items →
          outer.index < block.index) :
    Grows host start world
      ((world.updateList list fun old =>
        { old with listeners := old.listeners.subscribe (.block block)
          }).keepSubscription keeper
        (.list list (world.list list).listeners.next)) := by
  let listening := world.updateList list fun old =>
    { old with listeners := old.listeners.subscribe (.block block) }
  let number := (world.list list).listeners.next
  have adds := good.additions.loops
  have alters : Alters world listening :=
    (@furnishes_updateList _ world list (fun old =>
      { old with listeners := old.listeners.subscribe (.block block) }) fun _ =>
        rfl).toAlters
  have readyListening : Ready start listening keeper := by
    cases keeper <;> exact ready
  obtain ⟨rest, handleCount, itemCount⟩ :=
    keepSubscription_rest listening keeper (.list list number)
  have frameListening : Frame world listening := { fits := alters.fits }
  have lists : ∀ id,
      (((listening.keepSubscription keeper (.list list number)).list
         id).listeners =
         if list = id then (world.list id).listeners.subscribe (.block block)
         else (world.list id).listeners) := by
    intro id
    have same :
        (listening.keepSubscription keeper (.list list number)).list id =
          listening.list id := by
      rw [rest]
      rfl
    rw [same, list_updateList]
    by_cases here : list = id
    · subst here
      simp [inside]
    · simp [here]
  have subset : ∀ other, world.kept other ⊆
      (listening.keepSubscription keeper (.list list number)).kept other :=
    fun other record member => kept_subset listening keeper _ other
      (by cases other <;> exact member)
  have records : ∀ {other entry},
      entry ∈
        (listening.keepSubscription keeper (.list list number)).kept other →
        entry ∈ world.kept other ∨
        (other = keeper ∧ entry = .list list number) := by
    intro other entry member
    rcases mem_keepSubscription member with before | last
    · exact .inl (by cases other <;> exact before)
    · exact .inr last
  have accounted : ∀ {record},
      Accounted start world [] record →
      Accounted start (listening.keepSubscription keeper (.list list number))
        [] record :=
    fun accounted => accounted.mono .inl fun other new member =>
      .inr ⟨other, new, subset other member⟩
  have furnishes := (furnishes_keepList listening keeper list number).toAlters
  have whole := alters.trans furnishes
  have pins : (listening.keepSubscription keeper (.list list number)).pins =
        world.pins := by
    rw [rest]
    rfl
  refine ⟨frameListening.trans (readyListening.frame_keep _), ⟨good.tidy, ⟨?_,
    whole.wired good.additions.wired, ?_, ?_, ?_, ?_⟩, ?_, pins ▸ good.pins⟩, pins⟩
  · rw [whole.loaded]
    exact whole.sound good.additions.sound
  · refine good.additions.listeners.same whole.listeners whole.bindings
      (fun id binding found object number member => ?_) fun _ => accounted
    obtain ⟨_, _, same, has, _⟩ :=
      good.additions.wired.records id binding found _ member
    cases same
    exact whole.announcer has
  · refine {
      lists := fun id => ?_
      loops := fun id entry member later => ?_
      records := fun other newOther record member => ?_
      below := fun other newOther id recorded member => ?_ }
    · rw [lists]
      split
      · exact (adds.lists id).subscribe _
      · exact adds.lists id
    · rw [lists] at member
      have before : entry ∈ (world.list id).listeners.entries ∨
          (list = id ∧ entry = (number, .block block)) := by
        split at member
        case isTrue here =>
          subst here
          refine (List.mem_append.mp member).imp_right ?_
          intro last
          exact ⟨rfl, List.mem_singleton.mp last⟩
        case isFalse => exact .inl member
      rcases before with old | ⟨rfl, rfl⟩
      · obtain ⟨isBlock, known⟩ := adds.loops id entry old later
        exact ⟨isBlock, accounted known⟩
      · exact ⟨⟨block, rfl, new⟩, .inr ⟨keeper, ready.new, readyListening.keeps _⟩⟩
    · rcases records member with old | ⟨_, rfl⟩
      · exact adds.records other newOther record old
      · exact .inr ⟨list, number, rfl, (adds.lists list).next⟩
    · rw [lists]
      rcases records member with old | ⟨_, same⟩
      · have before := adds.below other newOther id recorded old
        split
        · exact Nat.lt_succ_of_lt before
        · exact before
      · cases same
        rw [if_pos rfl]
        exact Nat.lt_succ_self _
  · have blocks : ∀ id,
        (listening.keepSubscription keeper (.list list number)).block? id =
          world.block? id := by
      intro id
      rw [rest]
      rfl
    have before := good.additions.items
    have kept : ∀ id,
        id.index < start.items.size →
        (listening.keepSubscription keeper (.list list number)).item id =
          world.item id := by
      intro id old
      rcases kept_keepSubscription listening keeper (.list list number)
        (.item id) with same | ⟨own, _⟩
      · rw [item_keepSubscription, same]
        rfl
      · cases own
        exact absurd old (Nat.not_lt.mpr ready.1)
    refine {
      blockCount := by rw [rest]; exact before.blockCount
      itemCount := by rw [itemCount]; exact before.itemCount
      oldItems := fun id old => (kept id old).trans (before.oldItems id old)
      oldBlocks := fun id old => (blocks id).trans (before.oldBlocks id old)
      items := fun id newItem => ?_
      blocks := fun id found newBlock same => ?_
      climbs := fun id found newBlock same item member inner contains => ?_ }
    · have own := before.items id newItem
      rw [item_keepSubscription]
      refine ⟨own.1, own.2.1, fun dead => ?_⟩
      rcases kept_keepSubscription listening keeper (.list list number)
        (.item id) with same | ⟨here, _⟩
      · exact same.trans (own.2.2 dead)
      · cases here
        exact absurd ready.2.1 (Bool.eq_false_iff.mp dead)
    · rw [blocks] at same
      rw [itemCount]
      exact before.blocks id found newBlock same
    · rw [blocks] at same
      have newItem := ((before.blocks id found newBlock same).1 item member).1
      rcases contains with nested | ⟨other, registered, recorded, listens⟩
      · rw [item_keepSubscription] at nested
        exact before.climbs id found newBlock same item member inner (.inl nested)
      · rw [lists] at listens
        have entries :
            (registered, ListListener.block inner) ∈
              (world.list other).listeners.entries ∨
            (list = other ∧ registered = number ∧ inner = block) := by
          split at listens
          case isTrue here =>
            subst here
            refine (List.mem_append.mp listens).imp_right fun last => ?_
            cases List.mem_singleton.mp last
            exact ⟨rfl, rfl, rfl⟩
          case isFalse => exact .inl listens
        rcases @records (.item item) _ recorded with oldRecord | ⟨here, sameRecord⟩
        · rcases entries with oldEntry | ⟨rfl, rfl, rfl⟩
          · exact before.climbs id found newBlock same item member inner
              (.inr ⟨other, registered, oldRecord, oldEntry⟩)
          · exact absurd (adds.below (.item item) newItem list number oldRecord)
              (Nat.lt_irrefl _)
        · cases sameRecord
          rcases entries with oldEntry | ⟨_, _, rfl⟩
          · exact absurd ((adds.lists list).ordered.below _ oldEntry)
              (Nat.lt_irrefl _)
          · exact late item here.symm id found same member
  · exact (show AddsWidgets host start listening
      from good.additions.widgets.same rfl (fun _ => ⟨rfl, rfl, rfl⟩) rfl
      (fun _ _ => rfl) (fun _ => rfl) rfl).keep readyListening _
  · have retains :
        Retains world (listening.keepSubscription keeper
          (.list list number)) := by
      have second := retains_keep listening keeper (.list list number)
      refine ⟨second.pins, fun id => ?_, second.items, second.blocks⟩
      rw [lists]
      split
      · exact List.subset_append_left ..
      · exact List.Subset.refl _
    refine retains.swept good.swept
      (fun id found same live => .inl ⟨found, ?_, live⟩) fun id live => .inl ?_
    · rw [rest] at same
      exact same
    · rw [item_keepSubscription] at live
      exact live

/-! ## Items -/

/-- A new item comes, in a new loop, and an operation keeps it. -/
theorem Good.placeItem (good : Good host start world) {id : BlockId}
    (new : start.blocks.size ≤ id.index) (index : Nat) (things : List Owned) :
    Good host start
      (((id.updateItems fun items => items.take index ++ ⟨world.items.size⟩ ::
        items.drop index : Action σ Unit)
        ((ItemId.create : Action σ ItemId) world).2).2.pin
        (.item ⟨world.items.size⟩ :: things)) ∧
    Frame world ((id.updateItems fun items =>
      items.take index ++ ⟨world.items.size⟩ :: items.drop index :
        Action σ Unit) ((ItemId.create : Action σ ItemId) world).2).2 := by
  let created := ((ItemId.create : Action σ ItemId) world).2
  let placed :=
    ((id.updateItems fun items => items.take index ++ ⟨world.items.size⟩ ::
      items.drop index : Action σ Unit) created).2
  have adds := good.additions.items
  have item : ∀ other,
      created.item other =
        if other.index = world.items.size then ⟨[], [], [], true⟩
        else world.item other := by
    intro other
    simp only [created, World.item, ItemId.create, Store.get?_add]
    split <;> rfl
  have count : created.items.size = world.items.size + 1 := by
    simp only [created, ItemId.create, Store.size_add]
  have outside : ∀ other : ItemId,
      other.index = world.items.size → world.item other = default := by
    intro other here
    have absent := Store.get?_of_not_lt (Nat.not_lt.mpr (Nat.le_of_eq here.symm))
    simp only [World.item, absent, Option.getD_none]
  have kept : ∀ keeper, created.kept keeper = world.kept keeper := by
    intro keeper
    cases keeper with
    | handle => rfl
    | item other =>
      simp only [World.kept, item]
      split
      case isTrue here => rw [outside other here]; rfl
      case isFalse => rfl
  have contains : ∀ other inner,
      created.Contains other inner → world.Contains other inner := by
    intro other inner contains
    rcases contains with nested | ⟨list, number, recorded, listens⟩
    · rw [item] at nested
      split at nested
      · cases nested
      · exact .inl nested
    · rw [item] at recorded
      split at recorded
      · cases recorded
      · exact .inr ⟨list, number, recorded, listens⟩
  have itemsCreated : AddsItems start created := by
    refine { adds with
      itemCount := by rw [count]; exact Nat.le_succ_of_le adds.itemCount
      oldItems := fun other old => ?_
      items := fun other newOther => ?_
      blocks := fun outer block newOuter found => ?_
      climbs := fun outer block newOuter found other member inner holds => ?_ }
    · rw [item, if_neg (Nat.ne_of_lt (Nat.lt_of_lt_of_le old adds.itemCount))]
      exact adds.oldItems other old
    · rw [item]
      split
      · refine ⟨?_, ?_, fun _ => rfl⟩
        · intro _ none
          exact absurd none List.not_mem_nil
        · intro _ none
          exact absurd none List.not_mem_nil
      · exact adds.items other newOther
    · have before := adds.blocks outer block newOuter found
      rw [count]
      refine ⟨?_, before.2⟩
      intro other member
      exact ⟨(before.1 other member).1,
        Nat.lt_succ_of_lt (before.1 other member).2⟩
    · exact adds.climbs outer block newOuter found other member inner
        (contains other inner holds)
  have additionsCreated : Additions host start [] created :=
    good.additions.rearrange (furnishes_createItem world).toAlters itemsCreated
      (fun _ => rfl) kept rfl rfl rfl
  have additions : Additions host start [] placed := by
    refine additionsCreated.updateBlock (fun _ => ⟨rfl, rfl, rfl⟩)
      (itemsCreated.updateBlock new (fun _ => rfl) fun old found other member => ?_)
    rcases List.mem_append.mp member with front | back
    · exact .inl (List.mem_of_mem_take front)
    · rcases List.mem_cons.mp back with rfl | back
      · refine .inr ⟨⟨adds.itemCount, by rw [count]; exact Nat.lt_succ_self _⟩,
          fun inner holds => ?_⟩
        rcases holds with nested | ⟨_, _, recorded, _⟩
        · rw [item, if_pos rfl] at nested
          cases nested
        · rw [item, if_pos rfl] at recorded
          cases recorded
      · exact .inl (List.mem_of_mem_drop back)
  have blocks : ∀ outer block,
      placed.block? outer = some block →
      ∃ old,
        world.block? outer = some old ∧ block.live = old.live ∧
        old.items ⊆ block.items ∧
        ∀ other ∈ block.items,
          other ∈ old.items ∨ other.index = world.items.size := by
    intro outer block found
    change (created.updateBlock id _).block? outer = some block at found
    rw [block?_updateBlock] at found
    split at found
    · obtain ⟨old, foundOld, rfl⟩ := Option.map_eq_some_iff.mp found
      refine ⟨old, foundOld, rfl, fun other member => ?_, fun other member => ?_⟩
      · rw [← List.take_append_drop index old.items] at member
        rcases List.mem_append.mp member with front | back
        · exact List.mem_append_left _ front
        · exact List.mem_append_right _ (List.mem_cons_of_mem _ back)
      · rcases List.mem_append.mp member with front | back
        · exact .inl (List.mem_of_mem_take front)
        · rcases List.mem_cons.mp back with rfl | back
          · exact .inr rfl
          · exact .inl (List.mem_of_mem_drop back)
    · exact ⟨block, found, rfl, List.Subset.refl _, fun other member => .inl member⟩
  have live : ∀ other,
      (world.item other).live = true →
      created.item other = world.item other := by
    intro other live
    rw [item, if_neg (Nat.ne_of_lt (item_inside live))]
  have retains :
      Retains world (placed.pin (.item ⟨world.items.size⟩ :: things)) := by
    refine ⟨fun _ _ member => List.mem_append_right _ member,
      fun _ => List.Subset.refl _, fun other alive => ?_,
      fun outer block found alive => ?_⟩
    · change (created.item other).live = true ∧ _ ⊆ (created.item other).nested
      rw [live other alive]
      exact ⟨alive, List.Subset.refl _⟩
    · have present : (placed.block? outer).isSome := by
        change ((created.updateBlock id _).block? outer).isSome = true
        have same : created.block? outer = some block := found
        rw [block?_updateBlock, same]
        split <;> rfl
      obtain ⟨later, foundLater⟩ := Option.isSome_iff_exists.mp present
      obtain ⟨old, foundOld, sameLive, more, _⟩ := blocks outer later foundLater
      cases found.symm.trans foundOld
      exact ⟨later, foundLater, sameLive.trans alive, more⟩
  refine ⟨⟨good.tidy, additions.sameState rfl rfl, retains.swept good.swept
    (fun outer block found alive => ?_) (fun other alive => ?_),
    fun thing member => List.mem_append_right _ (good.pins thing member)⟩, ?_⟩
  · obtain ⟨old, foundOld, same, _⟩ := blocks outer block found
    exact .inl ⟨old, foundOld, same.symm.trans alive⟩
  · change (created.item other).live = true at alive
    rw [item] at alive
    split at alive
    case isTrue here =>
      refine .inr (ownsItem_of_pin ?_)
      have equal : other = ⟨world.items.size⟩ :=
        by cases other; exact congrArg _ here
      rw [equal]
      exact List.mem_append_left _ (List.mem_cons_self ..)
    case isFalse => exact .inl alive
  · refine {
      blockCount := ?_
      itemCount := ?_
      items := fun other pinned => ⟨pinned, fun alive => ?_⟩
      joins := fun other inside outer block found member => ?_ }
    · exact Nat.le_of_eq (Store.size_update ..).symm
    · change world.items.size ≤ created.items.size
      rw [count]
      exact Nat.le_succ _
    · change (created.item other).live = true
      rw [live other alive]
      exact alive
    · obtain ⟨old, foundOld, _, _, nestedFrom⟩ := blocks outer block found
      exact ⟨old, foundOld,
        (nestedFrom other member).resolve_right (Nat.ne_of_lt inside)⟩

/-- What has been built for a new item is noted; a loop only if all loops that
the item belongs to came before. -/
theorem Good.noteItem (good : Good host start world) (id : ItemId)
    (change : Item → Item) (new : start.items.size ≤ id.index)
    (same :
      ∀ old,
        (change old).subscriptions = old.subscriptions ∧
        (change old).live = old.live)
    (nested : ∀ old : Item, old.nested ⊆ (change old).nested)
    (blocks :
      ∀ inner ∈ (change (world.item id)).nested,
        inner ∈ (world.item id).nested ∨
        (start.blocks.size ≤ inner.index ∧
         ∀ outer block,
           world.block? outer = some block → id ∈ block.items →
           outer.index < inner.index))
    (widgets :
      ∀ widget ∈ (change (world.item id)).widgets,
        widget ∈ (world.item id).widgets ∨ start.widgets.size ≤ widget.index) :
    Grows host start world (world.updateItem id change) := by
  have before := good.additions.items.items id new
  have item : ∀ other,
      (world.updateItem id change).item other = world.item other ∨
      (id = other ∧
       (world.updateItem id change).item other =
         change (world.item other)) := by
    intro other
    rw [item_updateItem]
    split
    case isTrue here => exact .inr ⟨here.1, rfl⟩
    case isFalse => exact .inl rfl
  have live : ∀ other,
      ((world.updateItem id change).item other).live =
        (world.item other).live := by
    intro other
    rcases item other with unchanged | ⟨_, changed⟩
    · rw [unchanged]
    · rw [changed, (same _).2]
  have items : AddsItems start (world.updateItem id change) := by
    refine good.additions.items.updateItem new (fun inner member => ?_)
      (fun widget member => ?_) (fun dead => ?_) fun inner contains => ?_
    · exact (blocks inner member).elim (before.1 inner) And.left
    · exact (widgets widget member).elim (before.2.1 widget) fun come => come
    · rw [(same _).1]
      exact before.2.2 ((same _).2.symm.trans dead)
    · rcases contains with nestedAfter | ⟨list, number, recorded, listens⟩
      · rcases item id with unchanged | ⟨_, changed⟩
        · rw [unchanged] at nestedAfter
          exact .inl (.inl nestedAfter)
        · rw [changed] at nestedAfter
          exact (blocks inner nestedAfter).imp .inl And.right
      · refine .inl (.inr ⟨list, number, ?_, listens⟩)
        have kept :
            .list list number ∈ (world.updateItem id change).kept (.item id) :=
          recorded
        rwa [kept_updateItem world id fun old => (same old).1] at kept
  refine ⟨frame_updateItem world id fun old => (same old).2, ⟨good.tidy,
    good.additions.updateItem (fun old => (same old).1) items, ?_, good.pins⟩,
    rfl⟩
  · have retains : Retains world (world.updateItem id change) := by
      refine ⟨fun _ _ member => member, fun _ => List.Subset.refl _,
        fun other alive => ⟨by rwa [live], ?_⟩,
        fun _ block found alive => ⟨block, found, alive, List.Subset.refl _⟩⟩
      rcases item other with unchanged | ⟨_, changed⟩
      · rw [unchanged]
        exact List.Subset.refl _
      · rw [changed]
        exact nested _
    refine retains.swept good.swept ?_ ?_
    · intro _ block found alive
      exact .inl ⟨block, found, alive⟩
    · intro other alive
      exact .inl (by rwa [live] at alive)

end LiveMarkup.World
