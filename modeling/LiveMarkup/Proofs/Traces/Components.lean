import LiveMarkup.Proofs.Bindings.Components
import LiveMarkup.Proofs.Traces.Handles

/-!
# Building from components, or failing to

Whether building succeeds or fails, what it leaves behind belongs to someone
new.  An item that cannot be filled is taken apart again.
-/

namespace LiveMarkup.World

variable {σ : Type} {start world middle after : World σ} {host : WidgetId}
  {pending : List Subscription} {deliver : Deliver σ}

/-! ## Taking items apart -/

/-- Something was taken away, and owners may have gone with it. -/
structure Clears (host : WidgetId) (start world after : World σ) : Prop where
  frame : Frame world after
  additions : Additions host start [] after
  pins : after.pins = world.pins

theorem Clears.refl (additions : Additions host start [] world) :
    Clears host start world world :=
  ⟨.refl world, additions, rfl⟩

theorem Clears.trans (left : Clears host start world middle)
    (right : Clears host start middle after) : Clears host start world after :=
  ⟨left.frame.trans right.frame, right.additions, right.pins.trans left.pins⟩

theorem Clears.forM {α : Type} (items : List α) (action : α → Action σ PUnit)
    (each : ∀ item ∈ items, ∀ world, Additions host start [] world →
      Clears host start world (action item world).2)
    (additions : Additions host start [] world) :
    Clears host start world (items.forM action world).2 := by
  induction items generalizing world with
  | nil => exact .refl additions
  | cons item rest hypothesis =>
    change Clears host start world
      ((action item >>= fun _ => rest.forM action) world).2
    rw [Action.bind_apply]
    have first := each item (List.mem_cons_self ..) world additions
    exact first.trans (hypothesis
      (fun other member => each other (List.mem_cons_of_mem _ member))
      first.additions)

/-- Taking down a new item leaves what was there before. -/
theorem clears_cancelItem {id : ItemId}
    (additions : Additions host start [] world)
    (new : start.items.size ≤ id.index) :
    Clears host start world (world.cancelItem id) := by
  have cleared :
      Cuts (fun binding => .binding binding ∈ world.kept (.item id)) world
        (world.updateItem id fun old => { old with subscriptions := [] }) :=
    cuts_updateItem _ world id _ fun _ => List.nil_subset _
  have cancelled :=
    Wired.cuts_cancels (world.kept (.item id)) _ (cleared.wired additions.wired)
      fun record member => additions.wired.isKeepers member
  have cuts : Cuts (fun binding => .binding binding ∈ world.kept (.item id)) world
      (world.cancelItem id) := cleared.trans cancelled
  have rest :
      Loosens (world.updateItem id fun old => { old with subscriptions := [] })
        (world.cancelItem id) :=
    loosens_cancels _ _
  have blocks : (world.cancelItem id).blocks = world.blocks := by
    rw [rest]
    rfl
  have items : (world.cancelItem id).items.size = world.items.size := by
    rw [rest]
    exact Store.size_update ..
  have pins : (world.cancelItem id).pins = world.pins := by rw [cuts.rest]
  refine ⟨⟨cuts.later.fits, cuts.later.loaded, congrArg Store.size cuts.handles,
    fun other => ?_, ?_,
    Nat.le_of_eq (congrArg Store.size blocks.symm), Nat.le_of_eq items.symm,
      fun other pinned =>
        ⟨pins ▸ pinned, fun alive => ?_⟩,
          fun other _ outer block found member => ⟨block, ?_, member⟩⟩,
    additions.cancelItem new, pins⟩
  · rw [cuts.handle]
    exact ⟨rfl, rfl, rfl, fun _ => rfl⟩
  · rw [cuts.rest]
  · rw [item_cancelItem]
    split <;> exact alive
  · simp only [World.block?, blocks] at found
    exact found

/-- Taking a new widget out of the tree leaves what was there before. -/
theorem clears_removeFromParent {widget : WidgetId}
    (additions : Additions host start [] world)
    (new : start.widgets.size ≤ widget.index) :
    Clears host start world
      ((removeFromParent widget : Action σ Unit) world).2 := by
  unfold LiveMarkup.removeFromParent
  rw [Action.bind_apply, Action.get_apply]
  cases found : world.parent? widget with
  | none => exact .refl additions
  | some parent =>
    have below : (world.widget widget).parent = some parent := by
      obtain ⟨direct, isDirect, existing⟩ := Option.bind_eq_some_iff.mp found
      rw [isDirect, existingWidget?_some existing]
    have tree :=
      (retrees_record world (.remove parent widget)).trans
        (retrees_removeChild _ parent widget)
    exact ⟨tree.frame, tree.additions additions
      ((additions.widgets.record _).removeChild new below).1, by
        simp only
        change ((world.record _).removeChild parent widget).pins = _
        rw [tree.rest]⟩

/-- A new item forgets things that were built for it. -/
theorem clears_forget {id : ItemId} (change : Item → Item)
    (additions : Additions host start [] world)
    (new : start.items.size ≤ id.index)
    (same :
      ∀ old,
        (change old).subscriptions = old.subscriptions ∧
        (change old).live = old.live)
    (fewer :
      ∀ old : Item,
        (change old).nested ⊆ old.nested ∧ (change old).widgets ⊆ old.widgets) :
    Clears host start world (world.updateItem id change) := by
  obtain ⟨nested, widgets, dead⟩ := additions.items.items id new
  have items : AddsItems start (world.updateItem id change) := by
    refine additions.items.updateItem new ?_ ?_ ?_ fun inner contains => .inl ?_
    · intro block member
      exact nested block ((fewer _).1 member)
    · intro widget member
      exact widgets widget ((fewer _).2 member)
    · intro none
      exact (same _).1.trans (dead ((same _).2.symm.trans none))
    rcases contains with inside | ⟨list, number, recorded, listens⟩
    · rw [item_updateItem] at inside
      split at inside
      · exact .inl ((fewer _).1 inside)
      · exact .inl inside
    · refine .inr ⟨list, number, ?_, listens⟩
      rw [item_updateItem] at recorded
      split at recorded
      · rwa [(same _).1] at recorded
      · exact recorded
  exact ⟨frame_updateItem world id fun old => (same old).2,
    additions.updateItem (fun old => (same old).1) items, rfl⟩

/-- A new item is taken apart. -/
theorem clears_teardownItem (depth : Nat) (id : ItemId) (world : World σ)
    (additions : Additions host start [] world)
    (new : start.items.size ≤ id.index) :
    Clears host start world
      ((teardownItem depth id : Action σ Unit) world).2 := by
  induction depth generalizing id world with
  | zero => exact .refl additions
  | succ depth hypothesis =>
    rw [teardownItem, Action.bind_apply, Action.get_apply, Action.bind_apply,
      Action.modify_apply, Action.bind_apply]
    have own := additions.items.items id new
    have forgets :
        Clears host start world
          (world.updateItem id ({ · with nested := [] })) :=
      clears_forget _ additions new (fun _ => ⟨rfl, rfl⟩) fun _ =>
        ⟨List.nil_subset _, List.Subset.refl _⟩
    have inner := Clears.forM (world.item id).nested
      (fun block => do
        let items := (((← get).block? block).map (·.items)).getD []
        modify (·.updateBlock block ({ · with items := [] }))
        items.forM (teardownItem depth))
          (fun block member between additionsBetween => by
            have newBlock := own.1 block member
            rw [Action.bind_apply, Action.get_apply, Action.bind_apply,
              Action.modify_apply]
            have empties : Clears host start between
                (between.updateBlock block ({ · with items := [] })) :=
              ⟨frame_updateBlock between block fun _ => List.nil_subset _,
                additionsBetween.updateBlock (fun _ => ⟨rfl, rfl, rfl⟩)
                (additionsBetween.items.updateBlock newBlock (fun _ => rfl)
                  fun _ _ _ none => absurd none List.not_mem_nil), rfl⟩
            refine empties.trans (Clears.forM _ _ (fun item listed later additions =>
              hypothesis item later additions ?_) empties.additions)
            cases found : between.block? block with
            | none =>
              rw [found] at listed
              cases listed
            | some loop =>
              rw [found] at listed
              exact ((additionsBetween.items.blocks block loop newBlock found).1
                item listed).1)
      forgets.additions
    have cancelled := clears_cancelItem inner.additions new
    have widgets :
        ∀ widget ∈ (World.item _ id).widgets,
          start.widgets.size ≤ widget.index :=
      (cancelled.additions.items.items id new).2.1
    have emptied := clears_forget ({ · with widgets := [] }) cancelled.additions new
      (fun _ => ⟨rfl, rfl⟩) fun _ => ⟨List.Subset.refl _, List.nil_subset _⟩
    exact (((forgets.trans inner).trans cancelled).trans emptied).trans
      (.forM _ _ (fun widget member later additions =>
        clears_removeFromParent additions (widgets widget member))
          emptied.additions)

/-! ## Properties and signals -/

variable {handle : HandleId} {keeper : SubscriptionKeeper} {scope : Scope}

/-- Where a part of a new document is built. -/
structure Plot (host : WidgetId) (start : World σ) (handle : HandleId)
    (keeper : SubscriptionKeeper) (scope : Scope) (world : World σ) : Prop where
  good : Good host start world
  new : start.handles.size ≤ handle.index
  inside : handle.index < world.handles.size
  ready : Ready start world keeper
  known : scope.Known world world.loaded

theorem Plot.later (plot : Plot host start handle keeper scope world)
    (frame : Frame world after) (good : Good host start after) :
    Plot host start handle keeper scope after where
  good
  new := plot.new
  inside := frame.handleCount ▸ plot.inside
  ready := plot.ready.frame frame
  known := Scope.Known.mono frame.fits frame.loaded plot.known

theorem Plot.grows (plot : Plot host start handle keeper scope world)
    (grows : Grows host start world after) :
    Plot host start handle keeper scope after :=
  plot.later grows.frame grows.good

/-- A property of a new widget is set, or the attempt fails. -/
theorem Serene.buildProperty (serene : Serene host start deliver)
    (plot : Plot host start handle keeper scope world) {widget : WidgetId}
    (new : start.widgets.size ≤ widget.index)
    (inside : widget.index < world.widgets.size) (property : Property) :
    Grows host start world
      ((LiveMarkup.buildProperty deliver handle keeper widget scope
        property).run world).2 := by
  unfold LiveMarkup.buildProperty
  split
  case h_1 =>
    obtain ⟨evaluated, known⟩ :=
      plot.good.evaluateOnce plot.inside plot.known property.value
    exact Grows.bind evaluated.grows fun value gave =>
      (serene.applyProperty evaluated.good new property.key
        (known value gave)).grows
  case h_2 =>
    let binding : LiveBinding :=
      ⟨handle, widget, property.key, property.value, scope, [], 0, false,
        [], [], none⟩
    have begins : LiveBinding.Begins binding := ⟨rfl, rfl, rfl⟩
    obtain ⟨begun, newBinding, accounted⟩ :=
      plot.good.begin begins plot.ready plot.inside ⟨new, inside⟩ plot.known
    obtain ⟨evaluated, known⟩ := begun.good.evaluate newBinding accounted
    exact begun.trans (evaluated.grows.bind fun value gave =>
      (serene.applyProperty evaluated.good new property.key
        (known value gave)).grows)

/-- A signal of a new widget is connected, or the attempt fails. -/
theorem Good.buildSignal (good : Good host start world) {widget : WidgetId}
    (new : start.widgets.size ≤ widget.index) (handle : HandleId)
    (signal : Signal) :
    Grows host start world
      ((LiveMarkup.buildSignal handle widget signal).run world).2 := by
  unfold LiveMarkup.buildSignal
  rw [Attempt.bind_run, Attempt.getThe_run]
  simp only
  split
  · exact .refl good
  · split
    · exact .refl good
    · exact good.connect new signal.event _ signal.handler

/-- Parts are built one after the other. -/
theorem Grows.forM {α : Type} (items : List α) (attempt : α → Attempt σ PUnit)
    (good : Good host start world)
    (each : ∀ item ∈ items, ∀ later, Frame world later → Good host start later →
      Grows host start later ((attempt item).run later).2) :
    Grows host start world ((items.forM attempt).run world).2 := by
  have all : ∀ later, Frame world later → Good host start later →
      Grows host start later ((items.forM attempt).run later).2 := by
    induction items with
    | nil => exact fun later _ good => .refl good
    | cons item rest hypothesis =>
      intro later frame good
      have first := each item (List.mem_cons_self ..) later frame good
      exact Grows.bind first fun _ _ =>
        hypothesis (fun other member =>
          each other (List.mem_cons_of_mem _ member)) _
          (frame.trans first.frame) first.good
  exact all world (.refl world) good

/-- A new widget raises an event. -/
theorem Serene.emit (serene : Serene host start deliver)
    (good : Good host start world) {widget : WidgetId}
    (new : start.widgets.size ≤ widget.index) (name : String) :
    Quiet host start world ((widget.emit deliver name []).run world).2 := by
  rw [WidgetId.emit, WidgetId.event, Attempt.bind_run, Attempt.bind_run,
    Attempt.getThe_run]
  simp only
  cases found : (world.widget widget).cls.event? name with
  | none => exact .refl good
  | some event =>
    refine runAll_soft good fun callback member => ?_
    obtain ⟨connection, listed, rfl⟩ := List.mem_map.mp member
    obtain ⟨controller, handler, same⟩ :=
      good.additions.widgets.connections widget new connection
        (List.mem_of_mem_filter listed)
    rw [same]
    refine ⟨fun later _ good => serene.event later controller handler [] good,
      fun _ _ => rfl, fun thing owned => ?_⟩
    rcases List.mem_append.mp owned with owner | none
    · cases List.mem_singleton.mp owner
      exact not_false
    · cases none

/-- A new widget becomes ready. -/
theorem Serene.becomeReady (serene : Serene host start deliver)
    (good : Good host start world) {widget : WidgetId}
    (new : start.widgets.size ≤ widget.index) :
    Quiet host start world ((widget.becomeReady deliver).run world).2 := by
  have noted := good.noteReady widget
  rw [WidgetId.becomeReady, Attempt.bind_run, Attempt.modifyThe_run]
  exact noted.trans (serene.emit noted.good new "ready")

/-! ## Items -/

/-- A way to fill an item that builds below a new widget. -/
def Furnish (host : WidgetId) (start : World σ) (handle : HandleId)
    (fill : ItemId → WidgetId → Scope → Attempt σ Unit) : Prop :=
  ∀ item parent scope world, Plot host start handle (.item item) scope world →
    start.widgets.size ≤ parent.index → parent.index < world.widgets.size →
      Grows host start world ((fill item parent scope).run world).2

/-- A new item leaves its loop. -/
theorem clears_leave {id : BlockId} (additions : Additions host start [] world)
    (new : start.blocks.size ≤ id.index) (item : ItemId) :
    Clears host start world
      ((id.updateItems (·.erase item) : Action σ Unit) world).2 := by
  refine ⟨frame_updateBlock world id fun _ => List.erase_subset, ?_, rfl⟩
  exact additions.updateBlock (fun _ => ⟨rfl, rfl, rfl⟩)
    (additions.items.updateBlock new (fun _ => rfl) fun _ _ _ member =>
      .inl (List.erase_subset member))

/-- An item is filled, or everything built for it is taken away. -/
theorem Furnish.fill (id : BlockId) {item : ItemId} (parent : WidgetId)
    {fill : ItemId → WidgetId → Scope → Attempt σ Unit}
    (fills : Furnish host start handle fill)
    (plot : Plot host start handle (.item item) scope world)
    (new : start.blocks.size ≤ id.index)
    (newParent : start.widgets.size ≤ parent.index)
    (inside : parent.index < world.widgets.size) :
    Frame world ((tryCatch (fill item parent scope) fun error => do
      (item.teardown : Action σ Unit)
      (id.updateItems (·.erase item) : Action σ Unit)
      throw error).run world).2 ∧
    Additions host start [] ((tryCatch (fill item parent scope) fun error => do
      (item.teardown : Action σ Unit)
      (id.updateItems (·.erase item) : Action σ Unit)
      throw error).run world).2 := by
  have filled := fills item parent scope world plot newParent inside
  rw [Attempt.tryCatch_run]
  revert filled
  rcases (fill item parent scope).run world with ⟨outcome, between⟩
  intro filled
  cases outcome with
  | ok => exact ⟨filled.frame, filled.good.additions⟩
  | error error =>
    have torn :=
      clears_teardownItem between.blockDepth item between filled.good.additions
        plot.ready.new
    have left := clears_leave torn.additions new item
    exact ⟨filled.frame.trans (torn.trans left).frame, left.additions⟩

/-- The item of an element is built, or everything built for it is taken away. -/
theorem Good.buildItem (good : Good host start world) {id : BlockId}
    (new : start.blocks.size ≤ id.index) {handle : HandleId} (index : Nat)
    {value : Value} {fill : ItemId → WidgetId → Scope → Attempt σ Unit}
    (fills : Furnish host start handle fill)
    (newHandle : start.handles.size ≤ handle.index)
    (insideHandle : handle.index < world.handles.size)
    (known : value.Known world world.loaded) :
    Grows host start world ((id.buildItem index value fill).run world).2 := by
  unfold BlockId.buildItem
  rw [Attempt.bind_run, Attempt.getThe_run]
  simp only
  cases found : world.block? id with
  | none => exact .refl good
  | some block =>
    simp only
    cases existing : world.existingWidget? block.parent with
    | none => exact .refl good
    | some parent =>
      cases existingWidget?_some existing
      obtain ⟨placed, frame⟩ :=
        good.placeItem new index (.widget block.parent :: value.owns)
      revert placed frame
      generalize between : ((id.updateItems fun items =>
        items.take index ++ ⟨world.items.size⟩ :: items.drop index : Action σ Unit)
          ((ItemId.create : Action σ ItemId) world).2).2 = later
      intro placed frame
      have pinned :=
        Frame.pin later (.item ⟨world.items.size⟩ ::
          .widget block.parent :: value.owns)
      have both := frame.trans pinned
      have knownBlock := good.additions.sound.blocks id block found
      have plot :
          Plot host start handle (.item ⟨world.items.size⟩)
            ([(block.template.indexName, .int index),
              (block.template.valueName, value)] :: block.scope)
            (later.pin (.item ⟨world.items.size⟩ :: .widget block.parent ::
              value.owns)) := by
        refine ⟨placed, newHandle, both.handleCount ▸ insideHandle,
          ⟨good.additions.items.itemCount, ?_, List.mem_cons_self ..⟩,
          fun entries member => ?_⟩
        · subst between
          change (((ItemId.create : Action σ ItemId) world).2.item
            ⟨world.items.size⟩).live = true
          simp only [World.item, ItemId.create, Store.get?_add, if_true,
            Option.getD_some]
        · rcases List.mem_cons.mp member with rfl | outer
          · exact ⟨trivial, Value.Known.mono both.fits both.loaded value known,
              trivial⟩
          · exact Scope.Known.mono both.fits both.loaded knownBlock.2.2
              entries outer
      obtain ⟨filled, additions⟩ := fills.fill id block.parent plot new
        (good.additions.items.blocks id block new found).2
        (Nat.lt_of_lt_of_le knownBlock.2.1 both.fits.widgets)
      have pins : later.pins = world.pins := by
        subst between
        rfl
      have built := filled.attempting additions good.tidy (pins ▸ good.pins)
      subst between
      exact ⟨frame.trans built.frame, built.good, built.pins.trans pins⟩

/-- The items of the elements of a list are built in order. -/
theorem Good.buildItems (id : BlockId) (new : start.blocks.size ≤ id.index)
    {handle : HandleId} {fill : ItemId → WidgetId → Scope → Attempt σ Unit}
    (fills : Furnish host start handle fill)
    (newHandle : start.handles.size ≤ handle.index) (values : List Value)
    (index : Nat) (world : World σ) (good : Good host start world)
    (insideHandle : handle.index < world.handles.size)
    (known : ∀ value ∈ values, value.Known world world.loaded) :
    Grows host start world ((id.buildItems fill index values).run world).2 := by
  induction values generalizing index world with
  | nil => exact .refl good
  | cons value rest hypothesis =>
    have first := good.buildItem new index fills newHandle insideHandle
      (known value (List.mem_cons_self ..))
    exact Grows.bind first fun _ _ => hypothesis (index + 1) _ first.good
      (first.frame.handleCount ▸ insideHandle) fun other member =>
        Value.Known.mono first.frame.fits first.frame.loaded other
          (known other (List.mem_cons_of_mem _ member))

/-! ## Components -/

/-- Parts have been built, and other things may be kept than before. -/
structure Spreads (host : WidgetId) (start world after : World σ) : Prop where
  frame : Frame world after
  good : Good host start after

theorem Grows.spreads (grows : Grows host start world after) :
    Spreads host start world after :=
  ⟨grows.frame, grows.good⟩

theorem Spreads.trans (left : Spreads host start world middle)
    (right : Spreads host start middle after) : Spreads host start world after :=
  ⟨left.frame.trans right.frame, right.good⟩

/-- Parts that are built one after the other are parts that have been built. -/
theorem Spreads.bind {α β : Type} {attempt : Attempt σ α}
    {next : α → Attempt σ β}
    (first : Spreads host start world (attempt.run world).2)
    (second :
      ∀ result,
        (attempt.run world).1 = .ok result →
        Spreads host start (attempt.run world).2
          ((next result).run (attempt.run world).2).2) :
    Spreads host start world ((attempt >>= next).run world).2 := by
  rw [Attempt.bind_run]
  rcases run : attempt.run world with ⟨outcome, after⟩
  rw [run] at first second
  cases outcome with
  | error => exact first
  | ok result => exact first.trans (second result rfl)

/-- An attempt that succeeds gives a certain result. -/
def Answers {α : Type} (attempt : Attempt σ α) (answer : α) : Prop :=
  ∀ world result, (attempt.run world).1 = .ok result → result = answer

theorem Answers.pure {α : Type} (answer : α) :
    Answers (Pure.pure answer : Attempt σ α) answer :=
  fun _ _ same => (Except.ok.inj same).symm

theorem Answers.bind {α β : Type} {attempt : Attempt σ α}
    {next : α → Attempt σ β} {answer : β}
    (each : ∀ result, Answers (next result) answer) :
    Answers (attempt >>= next) answer := by
  intro world result gave
  rw [Attempt.bind_run] at gave
  revert gave
  rcases attempt.run world with ⟨outcome, after⟩
  intro gave
  cases outcome with
  | error => cases gave
  | ok value => exact each value after result gave

/-- A new widget is kept while things are built below it. -/
theorem Grows.keepWidget (grows : Grows host start world middle)
    {widget : WidgetId} (new : start.widgets.size ≤ widget.index)
    (inside : widget.index < middle.widgets.size) {body : Attempt σ WidgetId}
    (spreads :
      Spreads host start (middle.pin [.widget widget])
        (body.run (middle.pin [.widget widget])).2)
    (answers : Answers body widget) :
    Grows host start world
      ((LiveMarkup.attempting [.widget widget] body).run middle).2 ∧
    ∀ id,
      ((LiveMarkup.attempting [.widget widget] body).run middle).1 = .ok id →
        start.widgets.size ≤ id.index ∧
        id.index <
          ((LiveMarkup.attempting [.widget widget] body).run
            middle).2.widgets.size := by
  have built :=
    spreads.frame.attempting spreads.good.additions grows.good.tidy
      grows.good.pins
  refine ⟨grows.trans built, fun id gave => ?_⟩
  cases answers _ id gave
  exact ⟨new, Nat.lt_of_lt_of_le inside built.frame.fits.widgets⟩

theorem Plot.spreads (plot : Plot host start handle keeper scope world)
    (spreads : Spreads host start world after) :
    Plot host start handle keeper scope after :=
  plot.later spreads.frame spreads.good

/-- The loop built last is kept in place of the one before it. -/
theorem Good.keepBlock (good : Good host start world) (block : BlockId)
    {previous : Option BlockId}
    (new : ∀ other, previous = some other → start.blocks.size ≤ other.index) :
    Spreads host start world
      ((world.pin [.block block]).unpin (previous.map Owned.block).toList) := by
  have pins : ∀ thing : Owned,
      (∀ other, previous = some other → thing ≠ .block other) →
      thing ∈ world.pins →
      thing ∈
        (previous.map Owned.block).toList.foldl List.erase
          (world.pin [.block block]).pins := by
    intro thing apart pinned
    cases previous with
    | none => exact List.mem_cons_of_mem _ pinned
    | some other =>
      exact (List.mem_erase_of_ne (apart other rfl)).mpr
        (List.mem_cons_of_mem _ pinned)
  have same : SameState world { world.pin [.block block] with
      pins := (previous.map Owned.block).toList.foldl List.erase
        (world.pin [.block block]).pins } := rfl
  have calm : Calm world { world.pin [.block block] with
      pins := (previous.map Owned.block).toList.foldl List.erase
        (world.pin [.block block]).pins } :=
    same.calm rfl
  have additions := good.additions.sameState same rfl
  refine ⟨Frame.trans ?_ (frame_sweep additions.wired),
    additions.good_sweep good.tidy fun thing member => ?_⟩
  · exact calm.frame fun id => pins (.item id) fun other _ same => by cases same
  · refine pins thing (fun other isPrevious same => ?_) (good.pins thing member)
    exact absurd ((good.tidy.pins thing member).1 other same)
      (Nat.not_lt.mpr (new other isPrevious))

/-- Make a loop for a list, given how to fill its items, and let it listen to
the list. -/
def loopOver (keeper : SubscriptionKeeper) (block : Block)
    (fill : BlockId → ItemId → WidgetId → Scope → Attempt σ Unit) (list : ListId) :
    Attempt σ BlockId := do
  let id ← (BlockId.create block : Action σ BlockId)
  let values := ((← getThe (World σ)).list list).items
  LiveMarkup.attempting (.block id :: .list list :: values.flatMap Value.owns) do
    id.buildItems (fill id) 0 values
    let number ← (list.subscribe (.block id) : Action σ Nat)
    modifyThe (World σ) (·.keepSubscription keeper (.list list number))
    return id

/-- A loop is made, or everything built for it is taken away. -/
theorem Plot.loopOver (plot : Plot host start handle keeper scope world)
    {fill : BlockId → ItemId → WidgetId → Scope → Attempt σ Unit}
    (fills : ∀ id, Furnish host start handle (fill id)) (block : Block)
    (empty : block.items = []) (own : block.handle = handle)
    (same : block.scope = scope)
    (parent :
      start.widgets.size ≤ block.parent.index ∧
      block.parent.index < world.widgets.size) {list : ListId}
    (inside : list.index < world.lists.size) :
    Grows host start world
      ((World.loopOver keeper block fill list).run world).2 ∧
    ∀ id,
      ((World.loopOver keeper block fill list).run world).1 = .ok id →
      id = ⟨world.blocks.size⟩ := by
  subst own same
  let id : BlockId := ⟨world.blocks.size⟩
  let created := ((BlockId.create block : Action σ BlockId) world).2
  let things := .list list :: (created.list list).items.flatMap Value.owns
  let body : Attempt σ BlockId := do
    id.buildItems (fill id) 0 (created.list list).items
    let number ← (list.subscribe (.block id) : Action σ Nat)
    modifyThe (World σ) (·.keepSubscription keeper (.list list number))
    return id
  obtain ⟨pinned, frame⟩ :=
    plot.good.createBlock empty plot.inside parent plot.known things
  have kept := frame.trans (Frame.pin created (.block id :: things))
  have filled :=
    pinned.buildItems id plot.good.additions.items.blockCount (fills id)
      plot.new (created.list list).items 0 _ (kept.handleCount ▸ plot.inside)
      fun value member =>
        Value.Known.mono kept.fits kept.loaded value
          (plot.good.additions.sound.items list value member)
  have both := kept.trans filled.frame
  have listening := filled.good.listen (Nat.lt_of_lt_of_le inside both.fits.lists)
    id plot.good.additions.items.blockCount (plot.ready.frame both)
    fun item isKeeper outer found foundOuter belongs => by
      subst isKeeper
      obtain ⟨_, before, _⟩ :=
        both.joins item (item_inside plot.ready.2.1) outer found
          foundOuter belongs
      exact Store.lt_size_of_get? before
  have built :
      Grows host start (created.pin (.block id :: things))
        (body.run (created.pin (.block id :: things))).2 :=
    .bind filled fun _ _ => listening
  have released :=
    built.frame.attempting built.good.additions plot.good.tidy plot.good.pins
  have answers : Answers body id :=
    .bind fun _ => .bind fun _ => .bind fun _ => .pure id
  constructor
  · exact ⟨frame.trans released.frame, released.good, released.pins⟩
  · intro other gave
    exact answers _ other gave

mutual

/-- A component becomes a new widget, or the attempt fails. -/
theorem Serene.buildComponent (serene : Serene host start deliver)
    (handle : HandleId) (keeper : SubscriptionKeeper) :
    (component : Component) → (scope : Scope) → (world : World σ) →
    Plot host start handle keeper scope world →
      Grows host start world
        ((LiveMarkup.buildComponent deliver ⟨handle, keeper⟩ component
          scope).run world).2 ∧
      ∀ id,
        ((LiveMarkup.buildComponent deliver ⟨handle, keeper⟩ component
          scope).run world).1 = .ok id →
          start.widgets.size ≤ id.index ∧
          id.index <
            ((LiveMarkup.buildComponent deliver ⟨handle, keeper⟩ component
              scope).run world).2.widgets.size
  | ⟨name, aliasName, properties, signals, children, loops, span⟩, scope => by
    intro world plot
    rw [LiveMarkup.buildComponent]
    obtain ⟨created, made⟩ := plot.good.createWidget name
    rw [Attempt.bind_run]
    revert created made
    rcases (Toolkit.create name : Attempt σ WidgetId).run world
      with ⟨outcome, after⟩
    intro created made
    cases outcome with
    | error => exact ⟨created, fun _ gave => by cases gave⟩
    | ok widget =>
      obtain ⟨new, inside⟩ := made widget rfl
      have plotCreated := plot.grows created
      have pinned :
          Plot host start handle keeper scope (after.pin [.widget widget]) :=
        plotCreated.later (.pin after _)
          (plotCreated.good.pin fun thing member => by
            cases List.mem_singleton.mp member
            exact not_false)
      simp only
      have tail : ∀ later, Plot host start handle keeper scope later →
          widget.index < later.widgets.size →
            Spreads host start later ((do
              properties.forM (LiveMarkup.buildProperty deliver handle keeper
                widget scope)
              LiveMarkup.buildChildren deliver ⟨handle, keeper⟩ widget
                children scope
              LiveMarkup.buildLoops deliver ⟨handle, keeper⟩ widget loops none scope
              signals.forM (LiveMarkup.buildSignal handle widget)
              widget.becomeReady deliver
              pure widget : Attempt σ WidgetId).run later).2 := by
        intro later plot inside
        have set :=
          Grows.forM properties
            (LiveMarkup.buildProperty deliver handle keeper widget scope)
            plot.good fun property _ between frame good =>
              serene.buildProperty (plot.later frame good) new
                (Nat.lt_of_lt_of_le inside frame.fits.widgets) property
        refine Spreads.bind set.spreads fun _ _ => ?_
        have plotSet := plot.grows set
        have filled :=
          serene.buildChildren handle keeper children scope widget _ plotSet new
        refine Spreads.bind filled.spreads fun _ _ => ?_
        have plotFilled := plotSet.grows filled
        have looped :=
          serene.buildLoops handle keeper loops none scope widget _ plotFilled
            new (Nat.lt_of_lt_of_le inside
              (set.trans filled).frame.fits.widgets) nofun
        refine Spreads.bind looped fun _ _ => ?_
        have connected :=
          Grows.forM signals (LiveMarkup.buildSignal handle widget) looped.good
            fun signal _ _ _ good => good.buildSignal new handle signal
        refine Spreads.bind connected.spreads fun _ _ => ?_
        have raised := serene.becomeReady connected.good new
        exact Spreads.bind raised.grows.spreads fun _ _ => ⟨.refl _, raised.good⟩
      have answer : Answers (do
          properties.forM (LiveMarkup.buildProperty deliver handle keeper
            widget scope)
          LiveMarkup.buildChildren deliver ⟨handle, keeper⟩ widget children scope
          LiveMarkup.buildLoops deliver ⟨handle, keeper⟩ widget loops none scope
          signals.forM (LiveMarkup.buildSignal handle widget)
          widget.becomeReady deliver
          pure widget : Attempt σ WidgetId) widget :=
        .bind fun _ => .bind fun _ => .bind fun _ => .bind fun _ =>
          .bind fun _ => .pure widget
      cases aliasName with
      | none => exact created.keepWidget new inside (tail _ pinned inside) answer
      | some aliasName =>
        have registered := pinned.good.registerNode plot.new aliasName widget inside
        exact created.keepWidget new inside (.bind registered.spreads fun _ _ =>
          tail _ (pinned.grows registered)
            (Nat.lt_of_lt_of_le inside registered.frame.fits.widgets))
              (.bind fun _ => answer)

/-- The children of a new widget are built. -/
theorem Serene.buildChildren (serene : Serene host start deliver)
    (handle : HandleId) (keeper : SubscriptionKeeper) :
    (components : List Component) → (scope : Scope) → (widget : WidgetId) →
    (world : World σ) →
    Plot host start handle keeper scope world →
    start.widgets.size ≤ widget.index →
    Grows host start world
      ((LiveMarkup.buildChildren deliver ⟨handle, keeper⟩ widget components
        scope).run world).2
  | [], scope => by
    intro widget world plot new
    rw [LiveMarkup.buildChildren]
    exact .refl plot.good
  | component :: rest, scope => by
    intro widget world plot new
    rw [LiveMarkup.buildChildren]
    obtain ⟨built, child⟩ :=
      serene.buildComponent handle keeper component scope world plot
    refine Grows.bind built fun id gave => ?_
    obtain ⟨newChild, inside⟩ := child id gave
    have put := built.good.addChild widget newChild inside (.inl new)
    exact .perform put
      (serene.buildChildren handle keeper rest scope widget _
        ((plot.grows built).grows put) new)

/-- The loops of a new widget are built. -/
theorem Serene.buildLoops (serene : Serene host start deliver)
    (handle : HandleId) (keeper : SubscriptionKeeper) :
    (loops : List Loop) → (previous : Option BlockId) → (scope : Scope) →
    (widget : WidgetId) → (world : World σ) →
    Plot host start handle keeper scope world →
    start.widgets.size ≤ widget.index → widget.index < world.widgets.size →
    (∀ other, previous = some other → start.blocks.size ≤ other.index) →
    Spreads host start world
      ((LiveMarkup.buildLoops deliver ⟨handle, keeper⟩ widget loops previous
        scope).run world).2
  | [], previous, scope => by
    intro widget world plot new inside newPrevious
    rw [LiveMarkup.buildLoops]
    exact ⟨.refl world, plot.good⟩
  | loop :: rest, previous, scope => by
    intro widget world plot new inside newPrevious
    rw [LiveMarkup.buildLoops]
    rw [Attempt.bind_run, Attempt.getThe_run]
    simp only
    obtain ⟨built, block⟩ := serene.buildLoop handle keeper loop scope widget
      (anchorAfter world widget previous) world plot new inside
    refine Spreads.bind built.spreads fun id gave => ?_
    have kept := built.good.keepBlock id newPrevious
    refine Spreads.bind kept fun _ _ => ?_
    exact serene.buildLoops handle keeper rest (some id) scope widget _
      ((plot.grows built).spreads kept) new
      (Nat.lt_of_lt_of_le inside (built.frame.trans kept.frame).fits.widgets)
      fun other same => by
        cases same
        exact (block id gave).1

/-- A loop is built and listens to its list, or the attempt fails. -/
theorem Serene.buildLoop (serene : Serene host start deliver)
    (handle : HandleId) (keeper : SubscriptionKeeper) :
    (loop : Loop) → (scope : Scope) → (parent : WidgetId) →
    (anchor : Anchor) → (world : World σ) →
    Plot host start handle keeper scope world →
    start.widgets.size ≤ parent.index → parent.index < world.widgets.size →
      Grows host start world
        ((LiveMarkup.buildLoop deliver ⟨handle, keeper⟩ parent anchor loop
          scope).run world).2 ∧
      ∀ id,
        ((LiveMarkup.buildLoop deliver ⟨handle, keeper⟩ parent anchor loop
          scope).run world).1 = .ok id →
        start.blocks.size ≤ id.index ∧ world.blocks.size ≤ id.index
  | ⟨source, itemType, indexName, valueName, children, loops, span⟩, scope => by
    intro parent anchor world plot new inside
    rw [LiveMarkup.buildLoop]
    obtain ⟨read, known⟩ := plot.good.evaluateOnce plot.inside plot.known source
    rw [Attempt.bind_run]
    revert read known
    rcases (EvaluationContext.eval ⟨some handle, scope, none⟩ source).run world
      with ⟨outcome, between⟩
    intro read known
    cases outcome with
    | error => exact ⟨read.grows, fun _ gave => by cases gave⟩
    | ok value =>
      cases value with
      | list list =>
        have fills : ∀ id, Furnish host start handle (fun item parent scope => do
            LiveMarkup.fillChildren deliver ⟨handle, .item item⟩ id item parent
              children scope
            LiveMarkup.fillLoops deliver ⟨handle, .item item⟩ id item parent
              loops scope) :=
          fun id item parent scope world plot new inside => by
            have first :=
              serene.fillChildren handle children scope parent id item
                world plot new
            refine .bind first ?_
            intro _ _
            exact serene.fillLoops handle loops scope parent id item _
              (plot.grows first) new
              (Nat.lt_of_lt_of_le inside first.frame.fits.widgets)
        obtain ⟨grows, made⟩ :=
          (plot.grows read.grows).loopOver fills
            ⟨⟨source, itemType, indexName, valueName, children, loops, span⟩,
              handle, parent, anchor, scope, [], true⟩ rfl rfl rfl
            ⟨new, read.calm.widgetCount ▸ inside⟩ (known _ rfl)
        refine ⟨read.grows.trans grows, fun id gave => ?_⟩
        cases made id gave
        exact ⟨read.good.additions.items.blockCount,
          Nat.le_of_eq (congrArg Store.size read.calm.blocks.symm)⟩
      | _ => exact ⟨read.grows, fun _ gave => by cases gave⟩

/-- The components of a template are built for a new item. -/
theorem Serene.fillChildren (serene : Serene host start deliver)
    (handle : HandleId) :
    (components : List Component) → (scope : Scope) → (parent : WidgetId) →
    (block : BlockId) → (item : ItemId) → (world : World σ) →
    Plot host start handle (.item item) scope world →
    start.widgets.size ≤ parent.index →
    Grows host start world
      ((LiveMarkup.fillChildren deliver ⟨handle, .item item⟩ block item parent
        components scope).run world).2
  | [], scope => by
    intro parent block item world plot new
    rw [LiveMarkup.fillChildren]
    exact .refl plot.good
  | component :: rest, scope => by
    intro parent block item world plot new
    rw [LiveMarkup.fillChildren]
    obtain ⟨built, child⟩ :=
      serene.buildComponent handle (.item item) component scope world plot
    refine Grows.bind built fun id gave => ?_
    obtain ⟨newChild, inside⟩ := child id gave
    rw [Attempt.bind_run, Attempt.getThe_run]
    simp only
    generalize (Option.map _ _).getD 0 = index
    have put := built.good.addChild parent newChild inside (.inl new)
    refine .perform put ?_
    have moved := put.good.moveChild id new index
    refine .perform moved ?_
    have plotMoved := ((plot.grows built).grows put).grows moved
    have noted := moved.good.noteItem item (fun old =>
      { old with widgets := old.widgets ++ [id] }) plotMoved.ready.new
        (fun _ => ⟨rfl, rfl⟩)
      (fun _ => List.Subset.refl _) (fun _ member => .inl member)
        fun widget member =>
          (List.mem_append.mp member).imp_right fun last => by
            cases List.mem_singleton.mp last
            exact newChild
    exact .perform noted
      (serene.fillChildren handle rest scope parent block item _
        (plotMoved.grows noted) new)

/-- The loops of a template are built for a new item. -/
theorem Serene.fillLoops (serene : Serene host start deliver)
    (handle : HandleId) :
    (loops : List Loop) → (scope : Scope) → (parent : WidgetId) →
    (block : BlockId) → (item : ItemId) → (world : World σ) →
    Plot host start handle (.item item) scope world →
    start.widgets.size ≤ parent.index → parent.index < world.widgets.size →
    Grows host start world
      ((LiveMarkup.fillLoops deliver ⟨handle, .item item⟩ block item parent
        loops scope).run world).2
  | [], scope => by
    intro parent block item world plot new inside
    rw [LiveMarkup.fillLoops]
    exact .refl plot.good
  | loop :: rest, scope => by
    intro parent block item world plot new inside
    rw [LiveMarkup.fillLoops]
    rw [Attempt.bind_run, Attempt.getThe_run]
    simp only
    obtain ⟨built, made⟩ := serene.buildLoop handle (.item item) loop scope parent
      (anchorInItem world block item) world plot new inside
    refine Grows.bind built fun inner gave => ?_
    obtain ⟨newInner, later⟩ := made inner gave
    have plotBuilt := plot.grows built
    -- the loops that the item belongs to were there before
    have noted := built.good.noteItem item (fun old =>
      { old with nested := old.nested ++ [inner] }) plot.ready.new
        (fun _ => ⟨rfl, rfl⟩)
      (fun _ => List.subset_append_left _ _) (fun other member =>
        (List.mem_append.mp member).imp_right fun last => by
          cases List.mem_singleton.mp last
          refine ⟨newInner, fun outer found foundOuter belongs => ?_⟩
          obtain ⟨_, before, _⟩ :=
            built.frame.joins item (item_inside plot.ready.2.1) outer found
              foundOuter belongs
          exact Nat.lt_of_lt_of_le (Store.lt_size_of_get? before) later)
            fun _ member => .inl member
    exact .perform noted
      (serene.fillLoops handle rest scope parent block item _
        (plotBuilt.grows noted) new
        (Nat.lt_of_lt_of_le inside (built.trans noted).frame.fits.widgets))

end

end LiveMarkup.World
