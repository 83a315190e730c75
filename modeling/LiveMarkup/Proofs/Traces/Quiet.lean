import LiveMarkup.Proofs.Bindings.Beginning
import LiveMarkup.Proofs.Traces.Sweeping

/-!
# Setting properties leaves loops alone

While properties of new widgets are set and live properties follow, nothing
happens to the tree, to documents, loops and items.  Every live property that
evaluates is on record with someone new, and stays so.
-/

namespace LiveMarkup

/-- Whether something is a loop or an item. -/
def Owned.Repeats : Owned → Prop
  | .block _ | .item _ => True
  | _ => False

namespace World

variable {σ : Type} {start world middle after : World σ} {host : WidgetId}
  {pending : List Subscription}

/-- The tree, the documents, the loops and the items are as they were.  A step
need only speak of what it touches. -/
structure Calm (world after : World σ) : Prop where
  handles : after.handles = world.handles := by rfl
  items : after.items = world.items := by rfl
  blocks : after.blocks = world.blocks := by rfl
  topControllers : after.topControllers = world.topControllers := by rfl
  listeners : ∀ id, (after.list id).listeners = (world.list id).listeners := by
    exact fun _ => rfl
  contents : ∀ id,
      id.index < world.lists.size →
      (after.list id).items = (world.list id).items := by
    exact fun _ _ => rfl
  loaded : world.loaded ≤ after.loaded := by exact Nat.le_refl _
  bagCount : world.bags.size ≤ after.bags.size := by exact Nat.le_refl _
  listCount : world.lists.size ≤ after.lists.size := by exact Nat.le_refl _
  widgetCount : after.widgets.size = world.widgets.size := by rfl
  bindingCount : after.bindings.size = world.bindings.size := by rfl
  tree : ∀ id, (after.widget id).children = (world.widget id).children ∧
    (after.widget id).parent = (world.widget id).parent ∧
      (after.widget id).connections = (world.widget id).connections := by
    exact fun _ => ⟨rfl, rfl, rfl⟩

namespace Calm

theorem refl (world : World σ) : Calm world world := {}

theorem trans (left : Calm world middle) (right : Calm middle after) :
    Calm world after where
  handles := right.handles.trans left.handles
  items := right.items.trans left.items
  blocks := right.blocks.trans left.blocks
  topControllers := right.topControllers.trans left.topControllers
  listeners id := (right.listeners id).trans (left.listeners id)
  contents id inside :=
    (right.contents id (Nat.lt_of_lt_of_le inside left.listCount)).trans
      (left.contents id inside)
  loaded := Nat.le_trans left.loaded right.loaded
  bagCount := Nat.le_trans left.bagCount right.bagCount
  listCount := Nat.le_trans left.listCount right.listCount
  widgetCount := right.widgetCount.trans left.widgetCount
  bindingCount := right.bindingCount.trans left.bindingCount
  tree id :=
    ⟨(right.tree id).1.trans (left.tree id).1,
      (right.tree id).2.1.trans (left.tree id).2.1,
      (right.tree id).2.2.trans (left.tree id).2.2⟩

variable (calm : Calm world after)

include calm

theorem handle (id : HandleId) : after.handle id = world.handle id := by
  simp only [World.handle, calm.handles]

theorem item (id : ItemId) : after.item id = world.item id := by
  simp only [World.item, calm.items]

theorem block? (id : BlockId) : after.block? id = world.block? id := by
  simp only [World.block?, calm.blocks]

theorem kept (keeper : SubscriptionKeeper) :
    after.kept keeper = world.kept keeper := by
  cases keeper with
  | handle id => exact congrArg Handle.subscriptions (calm.handle id)
  | item id => exact congrArg Item.subscriptions (calm.item id)

theorem accounted {record : Subscription}
    (accounted : Accounted start world pending record) :
    Accounted start after pending record := by
  refine accounted.mono .inl ?_
  intro keeper new member
  exact .inr ⟨keeper, new, calm.kept keeper ▸ member⟩

theorem fits : Value.Fits world after :=
  ⟨calm.bagCount, calm.listCount, Nat.le_of_eq calm.widgetCount.symm,
    Nat.le_of_eq (congrArg Store.size calm.handles.symm)⟩

/-- The announcer of an object stays the same. -/
theorem announcer (object : ObjectId) :
    after.announcer object = world.announcer object := by
  cases object with
  | bag => rfl
  | widget => rfl
  | handle id =>
    exact congrArg (fun owner => Sum.inl owner.controller.state)
      (calm.handle id)

/-- Where the listeners of properties are accounted for, so is everything else. -/
theorem additions (additions : Additions host start [] world)
    (sound : after.Sound after.loaded) (wired : after.Wired)
    (listeners : AddsListeners start [] after) :
    Additions host start [] after where
  sound
  wired
  listeners
  loops := additions.loops.same calm.listeners (fun _ _ => calm.accounted)
    fun keeper _ record member => .inl (calm.kept keeper ▸ member)
  items := additions.items.same calm.items calm.blocks fun id => by
    rw [calm.listeners]
    exact List.Subset.refl _
  widgets :=
    additions.widgets.same calm.widgetCount calm.tree
      (congrArg Store.size calm.handles) (fun id _ => calm.handle id)
      (fun id => congrArg Handle.root (calm.handle id)) calm.topControllers

end Calm

theorem SameState.calm (same : SameState world after)
    (topControllers : after.topControllers = world.topControllers) :
    Calm world after := by
  refine ⟨?_, ?_, ?_, topControllers, fun id => ?_, fun id _ => ?_, ?_, ?_, ?_,
    ?_, ?_, fun id => ?_⟩ <;> rw [same]
  · rfl
  · rfl
  · exact ⟨rfl, rfl, rfl⟩

/-! ## Who owns loops and items -/

theorem contains_congr {first second : List Owned} {thing : Owned}
    (same : thing ∈ first ↔ thing ∈ second) :
    first.contains thing = second.contains thing := by
  rw [Bool.eq_iff_iff, List.contains_iff_mem, List.contains_iff_mem]
  exact same

/-- The operations in progress keep the same loops and items. -/
def SamePins (world after : World σ) : Prop :=
  ∀ thing : Owned, thing.Repeats → (thing ∈ after.pins ↔ thing ∈ world.pins)

/-- Who owns a loop is a matter of loops, items, listeners and the operations in
progress. -/
theorem Calm.owns (calm : Calm world after) (pins : SamePins world after) :
    (∀ id, after.ownsBlock id = true ↔ world.ownsBlock id = true) ∧
      ∀ id, after.ownsItem id = true ↔ world.ownsItem id = true := by
  refine ⟨fun id => ⟨fun owns => ?_, fun owns => ?_⟩, fun id => ?_⟩
  · rcases ownsBlock_cases owns with pinned | ⟨list, number, listens⟩ |
      ⟨item, live, nested⟩
    · exact ownsBlock_of_pin ((pins (.block id) trivial).mp pinned)
    · rw [calm.listeners] at listens
      exact ownsBlock_of_listener listens
    · rw [calm.item] at live nested
      exact ownsBlock_of_item live nested
  · rcases ownsBlock_cases owns with pinned | ⟨list, number, listens⟩ |
      ⟨item, live, nested⟩
    · exact ownsBlock_of_pin ((pins (.block id) trivial).mpr pinned)
    · rw [← calm.listeners] at listens
      exact ownsBlock_of_listener listens
    · rw [← calm.item] at live nested
      exact ownsBlock_of_item live nested
  · simp only [ownsItem, calm.blocks, contains_congr (pins (.item id) trivial)]

theorem Calm.swept (calm : Calm world after) (pins : SamePins world after)
    (swept : world.Swept) : after.Swept where
  blocks id block found live := by
    rw [calm.block?] at found
    exact ((calm.owns pins).1 id).mpr (swept.blocks id block found live)
  items id live := by
    rw [calm.item] at live
    exact ((calm.owns pins).2 id).mpr (swept.items id live)

/-! ## Good worlds -/

/-- A world that rendering has made of a tidy one, with nothing unowned in it. -/
structure Good (host : WidgetId) (start world : World σ) : Prop where
  tidy : start.Tidy
  additions : Additions host start [] world
  swept : world.Swept
  pins : ∀ thing ∈ start.pins, thing ∈ world.pins

/-- The world is good, and properties are all that has changed. -/
structure Quiet (host : WidgetId) (start world after : World σ) : Prop where
  calm : Calm world after
  good : Good host start after
  pins : after.pins = world.pins

theorem Quiet.refl (good : Good host start world) : Quiet host start world world :=
  ⟨.refl world, good, rfl⟩

theorem Quiet.trans (left : Quiet host start world middle)
    (right : Quiet host start middle after) : Quiet host start world after :=
  ⟨left.calm.trans right.calm, right.good, right.pins.trans left.pins⟩

theorem Calm.quiet (calm : Calm world after) (good : Good host start world)
    (sound : after.Sound after.loaded) (wired : after.Wired)
    (listeners : AddsListeners start [] after) (pins : after.pins = world.pins) :
    Quiet host start world after where
  calm
  good := ⟨good.tidy, calm.additions good.additions sound wired listeners,
    calm.swept (fun thing _ => by rw [pins]) good.swept, pins ▸ good.pins⟩
  pins

theorem AddsListeners.sameState (adds : AddsListeners start pending world)
    (same : SameState world after) : AddsListeners start pending after := by
  refine adds.same (fun post => ?_) (by rw [same]) (fun _ _ _ object _ _ => ?_)
    fun id accounted => accounted.mono .inl fun keeper new member =>
      .inr ⟨keeper, new, ?_⟩
  · rw [same]
    cases post <;> rfl
  · rw [same]
    cases object <;> rfl
  · rw [same]
    cases keeper <;> exact member

/-- Only the journal, the errors or what is kept in existence have changed, and
neither the loops nor the items that are kept. -/
theorem Good.sameState (good : Good host start world)
    (same : SameState world after)
    (topControllers : after.topControllers = world.topControllers)
    (pins : SamePins world after)
    (kept : ∀ thing ∈ start.pins, thing ∈ after.pins) :
    Good host start after where
  tidy := good.tidy
  additions :=
    (same.calm topControllers).additions good.additions
      (same.transition.sound good.additions.sound)
      (same.transition.wired good.additions.wired)
      (good.additions.listeners.sameState same)
  swept := (same.calm topControllers).swept pins good.swept
  pins := kept

theorem Good.quiet (good : Good host start world) (same : SameState world after)
    (topControllers : after.topControllers = world.topControllers)
    (pins : after.pins = world.pins) : Quiet host start world after :=
  ⟨same.calm topControllers,
    good.sameState same topControllers (fun _ _ => by rw [pins])
    (pins ▸ good.pins), pins⟩

theorem samePins_pin {things : List Owned}
    (plain : ∀ thing ∈ things, ¬ thing.Repeats) (world : World σ) :
    SamePins world (world.pin things) := by
  intro thing repeats
  simp only [World.pin, List.mem_append, or_iff_right_iff_imp]
  exact fun member => absurd repeats (plain thing member)

theorem Good.pin (good : Good host start world) {things : List Owned}
    (plain : ∀ thing ∈ things, ¬ thing.Repeats) :
    Good host start (world.pin things) :=
  good.sameState rfl rfl (samePins_pin plain world) fun thing member =>
    List.mem_append_right _ (good.pins thing member)

/-- The end of an operation that has kept neither loops nor items. -/
theorem Quiet.release {things : List Owned}
    (quiet : Quiet host start (world.pin things) after)
    (good : Good host start world) (plain : ∀ thing ∈ things, ¬ thing.Repeats) :
    Quiet host start world (World.sweep { after with pins := world.pins }) := by
  have same : SameState after { after with pins := world.pins } := rfl
  have pins : SamePins after { after with pins := world.pins } := by
    intro thing repeats
    rw [quiet.pins]
    exact (samePins_pin plain world thing repeats).symm
  have released := quiet.good.sameState same rfl pins good.pins
  rw [released.swept.sweep_eq]
  exact ⟨(SameState.calm (show SameState world (world.pin things) from rfl)
    rfl).trans (quiet.calm.trans (same.calm rfl)), released, rfl⟩

theorem Quiet.keeping {α : Type} {things : List Owned} {action : Action σ α}
    (good : Good host start world) (plain : ∀ thing ∈ things, ¬ thing.Repeats)
    (inner : Good host start (world.pin things) →
      Quiet host start (world.pin things) (action (world.pin things)).2) :
    Quiet host start world (LiveMarkup.keeping things action world).2 :=
  (inner (good.pin plain)).release good plain

theorem Quiet.bind {α β : Type} {attempt : Attempt σ α}
    {next : α → Attempt σ β}
    (first : Quiet host start world (attempt.run world).2)
    (second :
      ∀ result,
        (attempt.run world).1 = .ok result →
        Quiet host start (attempt.run world).2
          ((next result).run (attempt.run world).2).2) :
    Quiet host start world ((attempt >>= next).run world).2 := by
  rw [Attempt.bind_run]
  rcases run : attempt.run world with ⟨outcome, after⟩
  rw [run] at first second
  cases outcome with
  | error => exact first
  | ok result => exact first.trans (second result rfl)

/-! ## Evaluating -/

/-- A new live property may listen to whatever announces, since its records are
accounted for. -/
theorem AddsListeners.listen {id : BindingId} {binding : LiveBinding}
    {object : ObjectId} {name : String}
    (adds : AddsListeners start pending world)
    (new : start.bindings.size ≤ id.index)
    (accounted : Accounted start world pending (.binding id))
    (found : world.binding? id = some binding)
    (present : world.HasPost (world.announcer object)) :
    AddsListeners start pending (world.listen id binding object name) := by
  have kept : ∀ keeper,
      (world.listen id binding object name).kept keeper =
        world.kept keeper := by
    intro keeper
    unfold World.listen
    cases world.announcer object <;> cases keeper <;> rfl
  have carried : ∀ {record}, Accounted start world pending record →
      Accounted start (world.listen id binding object name) pending record :=
    fun accounted => accounted.mono .inl fun keeper new member =>
      .inr ⟨keeper, new, (kept keeper).symm ▸ member⟩
  refine {
    bindingCount := ?_
    posts := fun post => ?_
    heard := fun post entry member later => ?_
    widgets := fun other after newOther foundAfter => ?_
    accounted := fun other after newOther foundAfter listens => ?_
    later := fun other after newOther foundAfter watched number member => ?_ }
  · have count : (world.listen id binding object name).bindings.size =
          world.bindings.size := by
      unfold World.listen
      cases world.announcer object <;> exact Store.size_update ..
    rw [count]
    exact adds.bindingCount
  · by_cases here : world.announcer object = post
    · subst here
      rw [listen_at present]
      exact (adds.posts _).subscribe _
    · rw [listen_elsewhere here]
      exact adds.posts post
  · rcases (mem_listen present).mp member with old | ⟨here, rfl⟩
    · obtain ⟨other, before, watched, generation, property, same, newOther,
          foundBefore, recorded, announced⟩ :=
        adds.heard post entry old later
      by_cases own : id = other
      · subst own
        cases found.symm.trans foundBefore
        exact ⟨id, _, watched, generation, property, same, newOther,
          listen_binding_self found, List.mem_append_left _ recorded,
          (listen_announcer watched).trans announced⟩
      · exact ⟨other, before, watched, generation, property, same, newOther,
          (listen_binding_other own).trans foundBefore, recorded,
          (listen_announcer watched).trans announced⟩
    · refine ⟨id, _, object, binding.generation, name, rfl, new,
        listen_binding_self found, ?_, (listen_announcer object).trans here⟩
      rw [here]
      exact List.mem_append_right _ (List.mem_singleton_self _)
  · by_cases own : id = other
    · subst own
      cases (listen_binding_self found).symm.trans foundAfter
      exact adds.widgets id binding new found
    · rw [listen_binding_other own] at foundAfter
      exact adds.widgets other after newOther foundAfter
  · by_cases own : id = other
    · subst own
      exact carried accounted
    · rw [listen_binding_other own] at foundAfter
      exact carried (adds.accounted other after newOther foundAfter listens)
  · rw [listen_announcer]
    by_cases own : id = other
    · subst own
      cases (listen_binding_self found).symm.trans foundAfter
      rcases List.mem_append.mp member with old | last
      · exact adds.later id binding new found watched number old
      · cases List.mem_singleton.mp last
        exact (adds.posts _).next
    · rw [listen_binding_other own] at foundAfter
      exact adds.later other after newOther foundAfter watched number member

theorem calm_listen {id : BindingId} {binding : LiveBinding}
    {object : ObjectId} {name : String} :
    Calm world (world.listen id binding object name) := by
  have content : world.SameContent (world.listen id binding object name) :=
    listen_content
  refine ⟨?_, ?_, ?_, ?_, fun list => ?_, fun list _ => ?_, ?_,
    Nat.le_of_eq content.bagCount.symm, ?_, content.widgetCount, ?_,
    content.tree⟩ <;> unfold World.listen <;> cases world.announcer object
  all_goals first
    | rfl
    | exact Nat.le_refl _
    | exact Store.size_update ..

theorem calm_newList (world : World σ) (values : List Value) :
    Calm world (world.newList values).2 where
  listeners id := by
    rw [list_newList]
    split
    case isTrue here =>
      have absent := Store.get?_of_not_lt (Nat.not_lt.mpr (Nat.le_of_eq here.symm))
      simp only [World.list, absent, Option.getD_none]
      rfl
    case isFalse => rfl
  contents id inside := by rw [list_newList, if_neg (Nat.ne_of_lt inside)]
  listCount := by
    rw [newList, Store.size_add]
    exact Nat.le_succ _

/-- What an evaluation has read is accounted for if its live property is. -/
theorem Attends.calm {watcher : Option BindingId}
    (attends : Attends watcher world after)
    (adds : AddsListeners start [] world)
    (own :
      ∀ id,
        watcher = some id →
        start.bindings.size ≤ id.index ∧ Accounted start world [] (.binding id)) :
    Calm world after ∧ AddsListeners start [] after := by
  induction attends with
  | done => exact ⟨.refl world, adds⟩
  | listen name _ same found has present hypothesis =>
    obtain ⟨calm, middle⟩ := hypothesis
    obtain ⟨new, accounted⟩ := own _ same
    exact ⟨calm.trans calm_listen,
      middle.listen new (calm.accounted accounted) found present⟩
  | newList values _ hypothesis =>
    obtain ⟨calm, middle⟩ := hypothesis
    exact ⟨calm.trans (calm_newList _ values),
      middle.same (fun _ => rfl) rfl
      (fun _ _ _ object _ _ => by cases object <;> rfl) fun _ =>
        (calm_newList _ values).accounted⟩
  | @newResource between path size _ hypothesis =>
    obtain ⟨calm, middle⟩ := hypothesis
    have loads : Calm between (between.newResource path size).2 :=
      { loaded := Nat.le_succ _ }
    exact ⟨calm.trans loads, middle.same (fun _ => rfl) rfl
      (fun _ _ _ object _ _ => by cases object <;> rfl) fun _ => loads.accounted⟩

theorem Good.watches {watcher : Option BindingId} (good : Good host start world)
    (watches : Watches watcher world after)
    (own : ∀ id, watcher = some id →
      start.bindings.size ≤ id.index ∧ Accounted start world [] (.binding id)) :
    Quiet host start world after := by
  obtain ⟨calm, listeners⟩ := watches.attends.calm good.additions.listeners own
  exact calm.quiet good (watches.soundLoaded good.additions.sound)
    (watches.wired good.additions.wired) listeners (by rw [watches.rest])

/-- An expression is evaluated once. -/
theorem Good.evaluateOnce (good : Good host start world) {handle : HandleId}
    {scope : Scope} (inside : handle.index < world.handles.size)
    (known : scope.Known world world.loaded) (expr : Expr) :
    Quiet host start world
      ((EvaluationContext.eval ⟨some handle, scope, none⟩ expr).run world).2 ∧
    ∀ value,
      ((EvaluationContext.eval ⟨some handle, scope, none⟩ expr).run world).1 =
        .ok value →
      value.Known ((EvaluationContext.eval ⟨some handle, scope, none⟩ expr).run
        world).2 ((EvaluationContext.eval ⟨some handle, scope, none⟩ expr).run
          world).2.loaded := by
  have follows := @follows_eval _ ⟨some handle, scope, none⟩ 0 0 expr world
    ⟨good.additions.sound, good.additions.wired,
      fun _ same => by cases same; exact inside, known⟩
  exact ⟨good.watches follows.watches (fun _ none => by cases none), follows.known⟩

/-- Changing what a live property has to say keeps its listeners accounted for.
-/
theorem AddsListeners.updateBinding {id : BindingId}
    {change : LiveBinding → LiveBinding}
    (adds : AddsListeners start pending world)
    (subscriptions : ∀ old, (change old).subscriptions = old.subscriptions)
    (widget : ∀ old, (change old).widget = old.widget) :
    AddsListeners start pending (world.updateBinding id change) := by
  have announcer : ∀ object, (world.updateBinding id change).announcer object =
      world.announcer object := fun object => by cases object <;> rfl
  have before : ∀ other binding,
      (world.updateBinding id change).binding? other = some binding →
      ∃ old,
        world.binding? other = some old ∧
        binding.subscriptions = old.subscriptions ∧
        binding.widget = old.widget := by
    intro other binding found
    rw [binding?_updateBinding] at found
    split at found
    · obtain ⟨old, foundOld, rfl⟩ := Option.map_eq_some_iff.mp found
      exact ⟨old, foundOld, subscriptions old, widget old⟩
    · exact ⟨binding, found, rfl, rfl⟩
  refine {
    bindingCount := ?_
    posts := adds.posts
    heard := fun post entry member later => ?_
    widgets := fun other binding new found => ?_
    accounted := fun other binding new found listens => ?_
    later := fun other binding new found object number member => ?_ }
  · rw [World.updateBinding, Store.size_update]
    exact adds.bindingCount
  · obtain ⟨other, binding, object, generation, property, same, new, found,
      recorded, announced⟩ :=
      adds.heard post entry member later
    rw [← announcer] at announced
    by_cases own : id = other
    · refine ⟨other, change binding, object, generation, property, same, new, ?_,
        (subscriptions binding).symm ▸ recorded, announced⟩
      rw [binding?_updateBinding, if_pos own, found]
      rfl
    · exact ⟨other, binding, object, generation, property, same, new, by
        rw [binding?_updateBinding, if_neg own, found], recorded, announced⟩
  · obtain ⟨old, foundOld, _, same⟩ := before other binding found
    exact same ▸ adds.widgets other old new foundOld
  · obtain ⟨old, foundOld, same, _⟩ := before other binding found
    refine (adds.accounted other old new foundOld (same ▸ listens)).mono .inl
      fun keeper newKeeper member =>
        .inr ⟨keeper, newKeeper, by cases keeper <;> exact member⟩
  · obtain ⟨old, foundOld, same, _⟩ := before other binding found
    rw [announcer]
    exact adds.later other old new foundOld object number (same ▸ member)

theorem Good.updateBinding {id : BindingId} {change : LiveBinding → LiveBinding}
    (good : Good host start world) (renews : Renews change) :
    Quiet host start world (world.updateBinding id change) := by
  have calm : Calm world (world.updateBinding id change) :=
    { bindingCount := Store.size_update .. }
  refine calm.quiet good ?_ (good.additions.wired.updateBinding renews)
    (good.additions.listeners.updateBinding renews.subscriptions fun old =>
      (renews.continues old).widget) rfl
  exact good.additions.sound.updateBinding fun old =>
    ⟨(renews.continues old).handle, (renews.continues old).widget,
      (renews.continues old).scope⟩

/-- A new live property gives up what it listens to. -/
theorem Good.cancelBinding {id : BindingId} (good : Good host start world)
    (new : start.bindings.size ≤ id.index) :
    Quiet host start world (world.cancelBinding id) := by
  have cuts := good.additions.wired.cuts_cancelBinding id
  have rest := cancelBinding_rest good.additions.wired id
  have loaded : (world.cancelBinding id).loaded = world.loaded := by rw [rest]
  have calm : Calm world (world.cancelBinding id) := by
    refine ⟨?_, ?_, ?_, ?_, fun _ => ?_, fun _ _ => ?_, ?_,
      Nat.le_of_eq cuts.content.bagCount.symm, ?_, cuts.content.widgetCount,
      cuts.bindingCount, cuts.content.tree⟩ <;> rw [rest]
    all_goals rfl
  refine calm.quiet good (loaded ▸ cuts.sound good.additions.sound)
    (cuts.wired good.additions.wired)
    (AddsListeners.cancelBinding ?_ good.additions.wired new) (by rw [rest])
  exact { good.additions.listeners with
    accounted := fun other binding newOther found listens =>
      (good.additions.listeners.accounted other binding newOther found listens).mono
        (fun none => by cases none) fun keeper new member =>
          .inr ⟨keeper, new, member⟩ }

/-- A new live property that is on record evaluates. -/
theorem Good.evaluate {id : BindingId} (good : Good host start world)
    (new : start.bindings.size ≤ id.index)
    (accounted : Accounted start world [] (.binding id)) :
    Quiet host start world (id.evaluate.run world).2 ∧
    ∀ value,
      (id.evaluate.run world).1 = .ok value →
      value.Known (id.evaluate.run world).2
        (id.evaluate.run world).2.loaded := by
  have renewed : Quiet host start world (id.renew world) :=
    (good.cancelBinding new).trans
      ((good.cancelBinding new).good.updateBinding renews_next)
  cases found : (id.renew world).binding? id with
  | none =>
    have run : id.evaluate.run world = (.ok .null, id.renew world) := by
      change ((modify id.renew : Action σ Unit) >>= _) world = _
      rw [Action.bind_apply, Action.modify_apply, Action.bind_apply,
        Action.get_apply]
      simp only [found]
      rfl
    rw [run]
    exact ⟨renewed, fun value same => by cases same; trivial⟩
  | some binding =>
    have run := evaluate_run found
    simp only at run
    have known := renewed.good.additions.sound.bindings id binding found
    have follows := @follows_eval _
      ⟨some binding.handle, binding.scope, some id⟩ 0 0 binding.expr
      (id.renew world)
      ⟨renewed.good.additions.sound, renewed.good.additions.wired,
        fun _ same => by cases same; exact known.1, known.2.2⟩
    have evaluated := renewed.good.watches follows.watches fun other same => by
      cases same
      exact ⟨new, renewed.calm.accounted accounted⟩
    have concluded :=
      @Good.updateBinding _ _ _ _ id _ evaluated.good
        (renews_outcome
          ((EvaluationContext.eval ⟨some binding.handle, binding.scope, some id⟩
            binding.expr).run (id.renew world)).1)
    rw [run]
    refine ⟨(renewed.trans evaluated).trans concluded, fun value same => ?_⟩
    exact Value.Known.mono concluded.calm.fits concluded.calm.loaded value
      (follows.known value same)

end World

end LiveMarkup
