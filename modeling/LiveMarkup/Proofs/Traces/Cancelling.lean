import LiveMarkup.Proofs.Bindings.Furnishing
import LiveMarkup.Proofs.Traces.Additions

/-!
# Undoing what has come

Undoing the records of someone new takes away listeners that have come, and no
others: what is left is on record with the others.  A record that is about to
be undone counts as accounted for until it is.
-/

namespace LiveMarkup

namespace Listeners

variable {α : Type}

theorem Ordered.mem_unsubscribe {listeners : Listeners α}
    (ordered : listeners.Ordered) {number : Nat} {entry : Nat × α}
    (member : entry ∈ (listeners.unsubscribe number).entries) :
    entry ∈ listeners.entries ∧ entry.1 ≠ number := by
  refine ⟨List.mem_of_mem_eraseP member, ?_⟩
  have distinct := ordered.distinct
  simp only [Listeners.unsubscribe] at member
  revert member distinct
  induction listeners.entries with
  | nil => intro member; cases member
  | cons first rest hypothesis =>
    intro member distinct
    simp only [List.map_cons, List.nodup_cons] at distinct
    by_cases here : first.1 = number
    · rw [List.eraseP_cons_of_pos (by simpa using here)] at member
      intro same
      exact distinct.1 (here ▸ same ▸ List.mem_map_of_mem member)
    · rw [List.eraseP_cons_of_neg (by simpa using here)] at member
      rcases List.mem_cons.mp member with rfl | later
      · exact here
      · exact hypothesis later distinct.2

end Listeners

namespace World

variable {σ : Type} {start world after : World σ} {host : WidgetId}
  {pending : List Subscription} {record : Subscription}

/-! ## Listeners -/

/-- Listeners were taken away from objects, and nothing else has changed. -/
structure Silences (world after : World σ) : Prop where
  content : world.SameContent after
  rest : after = { world with bags := after.bags, widgets := after.widgets }

theorem Silences.refl (world : World σ) : Silences world world := ⟨.refl world, rfl⟩

theorem Silences.trans {middle : World σ} (left : Silences world middle)
    (right : Silences middle after) : Silences world after :=
  ⟨left.content.trans right.content, by rw [right.rest, left.rest]⟩

theorem Silences.announcer (silences : Silences world after) (object : ObjectId) :
    after.announcer object = world.announcer object := by
  rw [silences.rest]
  cases object <;> rfl

theorem Silences.binding? (silences : Silences world after) (id : BindingId) :
    after.binding? id = world.binding? id := by
  rw [silences.rest]
  rfl

theorem Silences.kept (silences : Silences world after)
    (keeper : SubscriptionKeeper) : after.kept keeper = world.kept keeper := by
  rw [silences.rest]
  cases keeper <;> rfl

theorem silences_cancelObject (world : World σ) (object : ObjectId) (number : Nat) :
    Silences world (world.cancelListener (.object object number)) := by
  rw [cancelListener, updatePropertyListeners_eq]
  refine ⟨world.sameContent_updateListenersAt _ _, ?_⟩
  cases world.announcer object <;> rfl

theorem listenersAt_cancelObject (world : World σ) (object : ObjectId)
    (number : Nat) (post : BagId ⊕ WidgetId) :
    (world.cancelListener (.object object number)).listenersAt post =
      if world.announcer object = post then
        (world.listenersAt post).unsubscribe number
      else world.listenersAt post := by
  rw [cancelListener, updatePropertyListeners_eq]
  split
  case isTrue here =>
    subst here
    by_cases present : world.HasPost (world.announcer object)
    · exact listenersAt_updateListenersAt_self present _
    · rw [listenersAt_updateListenersAt_of_not present]
      cases announcer : world.announcer object with
      | inl id =>
        rw [announcer] at present
        rw [listenersAt, bag_of_not_lt present]
        rfl
      | inr id =>
        rw [announcer] at present
        rw [listenersAt, widget_of_not_lt present]
        rfl
  case isFalse elsewhere => exact listenersAt_updateListenersAt_of_ne elsewhere _

/-- Undoing registrations with objects takes the listeners of their numbers, and
no earlier ones. -/
theorem cancelObjects {world : World σ} (records : List Subscription)
    (objects :
      ∀ record ∈ records, ∃ object number,
        record = .object object number ∧
        (start.listenersAt (world.announcer object)).next ≤ number)
    (posts : ∀ post, (start.listenersAt post).Extends (world.listenersAt post)) :
    Silences world (records.foldl cancelListener world) ∧
    (∀ post,
      (start.listenersAt post).Extends
        ((records.foldl cancelListener world).listenersAt post)) ∧
    ∀ post,
      ∀ entry ∈ ((records.foldl cancelListener world).listenersAt post).entries,
        entry ∈ (world.listenersAt post).entries ∧
        ∀ object,
          world.announcer object = post → .object object entry.1 ∉ records := by
  induction records generalizing world with
  | nil =>
    refine ⟨.refl world, posts, ?_⟩
    intro post entry member
    exact ⟨member, fun _ _ => List.not_mem_nil⟩
  | cons record rest hypothesis =>
    obtain ⟨object, number, rfl, later⟩ := objects record (List.mem_cons_self ..)
    have first := silences_cancelObject world object number
    obtain ⟨silences, extended, gone⟩ :=
      @hypothesis (world.cancelListener (.object object number))
        (fun record member => by
          obtain ⟨other, number, same, later⟩ :=
            objects record (List.mem_cons_of_mem _ member)
          refine ⟨other, number, same, ?_⟩
          rwa [first.announcer])
        (fun post => by
          rw [listenersAt_cancelObject]
          split
          case isTrue here => exact (posts post).unsubscribe (here ▸ later)
          case isFalse => exact posts post)
    refine ⟨first.trans silences, extended, fun post entry member => ?_⟩
    obtain ⟨left, others⟩ := gone post entry member
    rw [listenersAt_cancelObject] at left
    have before : entry ∈ (world.listenersAt post).entries ∧
        (world.announcer object = post → entry.1 ≠ number) := by
      split at left
      case isTrue here =>
        have removed := (posts post).ordered.mem_unsubscribe left
        exact ⟨removed.1, fun _ => removed.2⟩
      case isFalse elsewhere => exact ⟨left, fun here => absurd here elsewhere⟩
    refine ⟨before.1, fun other announced listed => ?_⟩
    rcases List.mem_cons.mp listed with same | listed
    · cases same
      exact before.2 announced rfl
    · exact others other ((first.announcer other).trans announced) listed

/-! ## Records -/

theorem Accounted.mono {more : List Subscription}
    (accounted : Accounted start world pending record)
    (includes : record ∈ pending → Accounted start after more record)
    (kept :
      ∀ keeper,
        NewKeeper start keeper → record ∈ world.kept keeper →
        Accounted start after more record) :
    Accounted start after more record := by
  rcases accounted with waiting | ⟨keeper, new, member⟩
  · exact includes waiting
  · exact kept keeper new member

/-- A new live property has undone its registrations; its own record need not be
kept for it. -/
theorem AddsListeners.cancelBinding {id : BindingId}
    (adds : AddsListeners start (.binding id :: pending) world)
    (wired : world.Wired) (new : start.bindings.size ≤ id.index) :
    AddsListeners start pending (world.cancelBinding id) := by
  unfold World.cancelBinding
  split
  case h_1 absent =>
    refine { adds with accounted := fun other binding newOther found listens => ?_ }
    refine (adds.accounted other binding newOther found listens).mono
      (fun waiting => ?_) fun keeper new member => .inr ⟨keeper, new, member⟩
    rcases List.mem_cons.mp waiting with same | waiting
    · cases same
      rw [absent] at found
      cases found
    · exact .inl waiting
  case h_2 own foundOwn =>
    have objects : ∀ record ∈ own.subscriptions,
      ∃ object number, record = .object object number ∧
        (start.listenersAt ((world.updateBinding id fun old =>
          { old with subscriptions := [] }).announcer object)).next ≤ number := by
      intro record member
      obtain ⟨object, number, rfl, _⟩ := wired.records id own foundOwn record member
      refine ⟨object, number, rfl, ?_⟩
      have later := adds.later id own new foundOwn object number member
      cases object <;> exact later
    obtain ⟨silences, extended, gone⟩ :=
      cancelObjects own.subscriptions objects adds.posts
    have announced : ∀ object,
      (own.subscriptions.foldl cancelListener (world.updateBinding id fun old =>
        { old with subscriptions := [] })).announcer object =
          world.announcer object := by
      intro object
      rw [silences.announcer]
      cases object <;> rfl
    have cleared : ∀ other binding,
        (own.subscriptions.foldl cancelListener
          (world.updateBinding id fun old =>
            { old with subscriptions := [] })).binding? other = some binding →
          (other = id ∧ binding = { own with subscriptions := [] }) ∨
          (other ≠ id ∧ world.binding? other = some binding) := by
      intro other binding found
      rw [silences.binding?, binding?_updateBinding] at found
      split at found
      case isTrue same =>
        subst same
        rw [foundOwn] at found
        exact .inl ⟨rfl, (Option.some.inj found).symm⟩
      case isFalse different => exact .inr ⟨fun same => different same.symm, found⟩
    refine {
      bindingCount := ?_
      posts := extended
      heard := fun post entry member later => ?_
      widgets := fun other binding newOther found => ?_
      accounted := fun other binding newOther found listens => ?_
      later := fun other binding newOther found object number member => ?_ }
    · rw [silences.rest]
      change _ ≤ (world.bindings.update id.index _).size
      rw [Store.size_update]
      exact adds.bindingCount
    · obtain ⟨old, notOwn⟩ := gone post entry member
      obtain ⟨other, binding, object, generation, property, same, newOther,
        found, recorded, announcedAt⟩ :=
        adds.heard post entry old later
      refine ⟨other, binding, object, generation, property, same, newOther, ?_,
        recorded, (announced object).trans announcedAt⟩
      rw [silences.binding?, binding?_updateBinding, if_neg, found]
      rintro rfl
      cases foundOwn.symm.trans found
      refine notOwn object ?_ recorded
      rw [← announcedAt]
      cases object <;> rfl
    · rcases cleared other binding found with ⟨rfl, rfl⟩ | ⟨_, before⟩
      · exact adds.widgets other own new foundOwn
      · exact adds.widgets other binding newOther before
    · rcases cleared other binding found with ⟨_, rfl⟩ | ⟨different, before⟩
      · exact absurd rfl listens
      · refine (adds.accounted other binding newOther before listens).mono
          (fun waiting => ?_) fun keeper newKeeper member =>
            .inr ⟨keeper, newKeeper, ?_⟩
        · rcases List.mem_cons.mp waiting with same | waiting
          · cases same
            exact absurd rfl different
          · exact .inl waiting
        · rw [silences.kept]
          cases keeper <;> exact member
    · rw [announced]
      rcases cleared other binding found with ⟨_, rfl⟩ | ⟨_, before⟩
      · cases member
      · exact adds.later other binding newOther before object number member

theorem listenersAt_cancelList (world : World σ) (list : ListId) (number : Nat)
    (other : ListId) :
    ((world.cancelListener (.list list number)).list other).listeners =
      if list = other then (world.list other).listeners.unsubscribe number
      else (world.list other).listeners := by
  rw [cancelListener, list_updateList]
  by_cases same : list = other
  · subst same
    by_cases inside : list.index < world.lists.size
    · simp [inside]
    · have absent := Store.get?_of_not_lt inside
      simp only [inside, and_false, if_false, if_true, World.list, absent,
        Option.getD_none]
      rfl
  · simp [same]

/-- A registration with a list is undone. -/
theorem AddsLoops.cancelList {list : ListId} {number : Nat}
    (adds : AddsLoops start (.list list number :: pending) world)
    (later : (start.list list).listeners.next ≤ number) :
    AddsLoops start pending (world.cancelListener (.list list number)) where
  lists id := by
    rw [listenersAt_cancelList]
    split
    case isTrue here => exact here ▸ (adds.lists list).unsubscribe later
    case isFalse => exact adds.lists id
  loops id entry member new := by
    rw [listenersAt_cancelList] at member
    have before : entry ∈ (world.list id).listeners.entries ∧
        (list = id → entry.1 ≠ number) := by
      split at member
      case isTrue here =>
        have removed := (adds.lists id).ordered.mem_unsubscribe member
        exact ⟨removed.1, fun _ => removed.2⟩
      case isFalse elsewhere => exact ⟨member, fun here => absurd here elsewhere⟩
    obtain ⟨block, accounted⟩ := adds.loops id entry before.1 new
    refine ⟨block, accounted.mono (fun waiting => ?_)
      fun keeper newKeeper kept =>
        .inr ⟨keeper, newKeeper, by cases keeper <;> exact kept⟩⟩
    rcases List.mem_cons.mp waiting with same | waiting
    · cases same
      exact absurd rfl (before.2 rfl)
    · exact .inl waiting
  records keeper new record member := adds.records keeper new record (by
    cases keeper <;> exact member)
  below keeper new other number member := by
    have before :=
      adds.below keeper new other number (by cases keeper <;> exact member)
    rw [listenersAt_cancelList]
    split <;> exact before

/-- Listeners of objects, live properties and records are as they were. -/
theorem AddsListeners.same {more : List Subscription}
    (adds : AddsListeners start pending world)
    (listeners : ∀ post, after.listenersAt post = world.listenersAt post)
    (bindings : after.bindings = world.bindings)
    (announcer :
      ∀ id binding,
        world.binding? id = some binding →
        ∀ object number,
          .object object number ∈ binding.subscriptions →
          after.announcer object = world.announcer object)
    (accounted :
      ∀ id : BindingId,
        Accounted start world pending (.binding id) →
        Accounted start after more (.binding id)) :
    AddsListeners start more after where
  bindingCount := by
    rw [bindings]
    exact adds.bindingCount
  posts post := by
    rw [listeners]
    exact adds.posts post
  heard post entry member later := by
    rw [listeners] at member
    obtain ⟨id, binding, object, generation, property, same, new, found,
      recorded, announced⟩ :=
      adds.heard post entry member later
    exact ⟨id, binding, object, generation, property, same, new, by
      simpa only [World.binding?, bindings] using found, recorded,
      (announcer id binding found object entry.1 recorded).trans announced⟩
  widgets id binding new found := adds.widgets id binding new (by
    simpa only [World.binding?, bindings] using found)
  accounted id binding new found listens :=
    accounted id (adds.accounted id binding new (by
    simpa only [World.binding?, bindings] using found) listens)
  later id binding new found object number member := by
    have before : world.binding? id = some binding := by
      simpa only [World.binding?, bindings] using found
    rw [announcer id binding before object number member]
    exact adds.later id binding new before object number member

/-- The listeners of lists are as they were. -/
theorem AddsLoops.same {more : List Subscription}
    (adds : AddsLoops start pending world)
    (listeners : ∀ id, (after.list id).listeners = (world.list id).listeners)
    (accounted :
      ∀ list number,
        Accounted start world pending (.list list number) →
        Accounted start after more (.list list number))
    (records :
      ∀ keeper,
        NewKeeper start keeper →
        ∀ record ∈ after.kept keeper,
          record ∈ world.kept keeper ∨
          ∃ id : BindingId,
            record = .binding id ∧ start.bindings.size ≤ id.index) :
    AddsLoops start more after where
  lists id := by
    rw [listeners]
    exact adds.lists id
  loops id entry member later := by
    rw [listeners] at member
    obtain ⟨block, recorded⟩ := adds.loops id entry member later
    exact ⟨block, accounted id entry.1 recorded⟩
  records keeper new record member :=
    (records keeper new record member).elim (adds.records keeper new record) .inl
  below keeper new list number member := by
    rw [listeners]
    rcases records keeper new _ member with before | ⟨_, same, _⟩
    · exact adds.below keeper new list number before
    · cases same

/-- Loops and items are as they were, and lists have no more listeners. -/
theorem AddsItems.same (adds : AddsItems start world)
    (items : after.items = world.items) (blocks : after.blocks = world.blocks)
    (listeners :
      ∀ id,
        (after.list id).listeners.entries ⊆ (world.list id).listeners.entries) :
    AddsItems start after where
  blockCount := blocks ▸ adds.blockCount
  itemCount := items ▸ adds.itemCount
  oldItems id old := by
    simp only [item, items]
    exact adds.oldItems id old
  oldBlocks id old := by
    simp only [block?, blocks]
    exact adds.oldBlocks id old
  items id new := by
    simp only [item, items]
    exact adds.items id new
  blocks id block new found := by
    simp only [block?, blocks] at found
    rw [items]
    exact adds.blocks id block new found
  climbs id block new found item member inner contains := by
    simp only [block?, blocks] at found
    refine adds.climbs id block new found item member inner ?_
    rcases contains with nested | ⟨list, number, recorded, listens⟩
    · simp only [World.item, items] at nested
      exact .inl nested
    · simp only [World.item, items] at recorded
      exact .inr ⟨list, number, recorded, listeners list listens⟩

/-- The tree, the documents and the events of widgets are as they were. -/
theorem AddsWidgets.same (adds : AddsWidgets host start world)
    (widgetCount : after.widgets.size = world.widgets.size)
    (widgets :
      ∀ id,
        (after.widget id).children = (world.widget id).children ∧
        (after.widget id).parent = (world.widget id).parent ∧
        (after.widget id).connections = (world.widget id).connections)
    (handleCount : after.handles.size = world.handles.size)
    (handles :
      ∀ id : HandleId,
        id.index < start.handles.size → after.handle id = world.handle id)
    (roots : ∀ id, (after.handle id).root = (world.handle id).root)
    (topControllers : after.topControllers = world.topControllers) :
    AddsWidgets host start after where
  widgetCount := widgetCount ▸ adds.widgetCount
  handleCount := handleCount ▸ adds.handleCount
  oldHandles id old := (handles id old).trans (adds.oldHandles id old)
  roots id root new found := adds.roots id root new ((roots id).symm.trans found)
  children id old := by
    rw [(widgets id).1]
    exact adds.children id old
  attached id old child member new := by
    rw [(widgets id).1] at member
    obtain ⟨same, parent, handle, newHandle, root⟩ :=
      adds.attached id old child member new
    exact ⟨same, (widgets child).2.1.trans parent, handle, newHandle,
      (roots handle).trans root⟩
  once id old := by
    rw [(widgets id).1]
    exact adds.once id old
  connections id new entry member := by
    rw [(widgets id).2.2] at member
    exact adds.connections id new entry member
  topControllers := topControllers ▸ adds.topControllers

theorem SameContent.tree (same : world.SameContent after) (id : WidgetId) :
    (after.widget id).children = (world.widget id).children ∧
      (after.widget id).parent = (world.widget id).parent ∧
        (after.widget id).connections = (world.widget id).connections := by
  rw [same.widgets id]
  exact ⟨rfl, rfl, rfl⟩

/-! ## Keepers -/

/-- Cancelling a live property touches the announcers that it listens to, and
the property itself. -/
theorem cancelBinding_rest (wired : world.Wired) (id : BindingId) :
    world.cancelBinding id = { world with
      bags := (world.cancelBinding id).bags
      widgets := (world.cancelBinding id).widgets
      bindings := (world.cancelBinding id).bindings } := by
  unfold World.cancelBinding
  split
  · rfl
  case h_2 binding found =>
    have objects : ∀ record ∈ binding.subscriptions, ∃ object number,
        record = .object object number := fun record member => by
          obtain ⟨object, number, same, _⟩ :=
            wired.records id binding found record member
          exact ⟨object, number, same⟩
    have silences : ∀ (records : List Subscription) (world : World σ),
        (∀ record ∈ records, ∃ object number, record = .object object number) →
          Silences world (records.foldl cancelListener world) := by
      intro records
      induction records with
      | nil => exact fun world _ => .refl world
      | cons record rest hypothesis =>
        intro world objects
        obtain ⟨object, number, rfl⟩ := objects record (List.mem_cons_self ..)
        exact (silences_cancelObject world object number).trans
          (hypothesis _ fun record member =>
            objects record (List.mem_cons_of_mem _ member))
    rw [(silences _ (world.updateBinding id fun old =>
      { old with subscriptions := [] }) objects).rest]
    rfl

/-- One of the records that are about to be undone is undone. -/
theorem Additions.cancel
    (additions : Additions host start (record :: pending) world)
    (new : NewRecord start record) :
    Additions host start pending (world.cancel record) := by
  have shape : IsKeepers record := by
    rcases new with ⟨id, rfl, _⟩ | ⟨list, number, rfl, _⟩ <;> trivial
  have cuts := additions.wired.cuts_cancel shape
  have sound : (world.cancel record).Sound (world.cancel record).loaded := by
    have loaded : (world.cancel record).loaded = world.loaded := by rw [cuts.rest]
    rw [loaded]
    exact cuts.sound additions.sound
  rcases new with ⟨id, rfl, new⟩ | ⟨list, number, rfl, later⟩
  · have rest := cancelBinding_rest additions.wired id
    refine ⟨sound, cuts.wired additions.wired,
      additions.listeners.cancelBinding additions.wired new, ?_, ?_, ?_⟩
    · refine additions.loops.same (fun other => ?_)
        (fun list number accounted => ?_) fun keeper _ record member => .inl ?_
      · rw [World.cancel, rest]
        rfl
      · refine accounted.mono (fun waiting => ?_) fun keeper newKeeper member =>
          .inr ⟨keeper, newKeeper, ?_⟩
        · rcases List.mem_cons.mp waiting with same | waiting
          · cases same
          · exact .inl waiting
        · rw [World.cancel, rest]
          cases keeper <;> exact member
      · rw [World.cancel, rest] at member
        cases keeper <;> exact member
    · exact additions.items.same (by rw [World.cancel, rest])
        (by rw [World.cancel, rest]) fun other => by
          rw [World.cancel, rest]
          exact List.Subset.refl _
    · exact additions.widgets.same cuts.content.widgetCount cuts.content.tree
        (congrArg Store.size cuts.handles) (fun _ _ => cuts.handle _)
        (fun id => by rw [cuts.handle]) (by rw [World.cancel, rest])
  · refine ⟨sound, cuts.wired additions.wired, ?_,
      additions.loops.cancelList later, ?_, ?_⟩
    · refine additions.listeners.same (fun _ => rfl) rfl (fun _ _ _ object _ _ => by
        cases object <;> rfl) fun id accounted => ?_
      refine accounted.mono (fun waiting => ?_) fun keeper newKeeper member =>
        .inr ⟨keeper, newKeeper, by cases keeper <;> exact member⟩
      rcases List.mem_cons.mp waiting with same | waiting
      · cases same
      · exact .inl waiting
    · refine additions.items.same rfl rfl fun other => ?_
      rw [World.cancel, listenersAt_cancelList]
      · split
        · exact fun entry member => List.mem_of_mem_eraseP member
        · exact List.Subset.refl _
      · intro id same
        cases same
    · exact additions.widgets.same rfl (fun _ => ⟨rfl, rfl, rfl⟩) rfl
        (fun _ _ => rfl) (fun _ => rfl) rfl

/-- All records that are about to be undone are undone. -/
theorem Additions.cancels (records : List Subscription) (world : World σ)
    (additions : Additions host start records world)
    (new : ∀ record ∈ records, NewRecord start record) :
    Additions host start [] (records.foldl World.cancel world) := by
  induction records generalizing world with
  | nil => exact additions
  | cons record rest hypothesis =>
    refine hypothesis _ (additions.cancel (new record (List.mem_cons_self ..)))
      ?_
    intro record member
    exact new record (List.mem_cons_of_mem _ member)

end World

end LiveMarkup
