import LiveMarkup.Proofs.Bindings.Building
import LiveMarkup.Proofs.Traces.Callbacks
import LiveMarkup.Proofs.Trees.Operations

/-!
# New widgets in the tree

Widgets come, are put below each other, moved and taken away.  Nothing new is
ever put below an old widget, except for the roots of new documents below the
host.
-/

namespace LiveMarkup.World

variable {σ : Type} {start world middle after : World σ} {host : WidgetId}
  {pending : List Subscription}

/-! ## Steps of building -/

/-- Documents are as they were, except that the last one may keep more records
or fewer; items that are kept stay live, and no old item joins another loop.  A
step need only speak of what it touches. -/
structure Frame (world after : World σ) : Prop where
  fits : Value.Fits world after := by constructor <;> exact Nat.le_refl _
  loaded : world.loaded ≤ after.loaded := by exact Nat.le_refl _
  handleCount : after.handles.size = world.handles.size := by rfl
  handles : ∀ id, (after.handle id).imports = (world.handle id).imports ∧
    (after.handle id).root = (world.handle id).root ∧
      (after.handle id).controller = (world.handle id).controller ∧
        (id.index + 1 < world.handles.size →
          (after.handle id).subscriptions = (world.handle id).subscriptions) := by
    exact fun _ => ⟨rfl, rfl, rfl, fun _ => rfl⟩
  topControllers : after.topControllers = world.topControllers := by rfl
  blockCount : world.blocks.size ≤ after.blocks.size := by exact Nat.le_refl _
  itemCount : world.items.size ≤ after.items.size := by exact Nat.le_refl _
  items : ∀ id : ItemId, .item id ∈ world.pins → .item id ∈ after.pins ∧
    ((world.item id).live = true → (after.item id).live = true) := by
    exact fun _ pinned => ⟨pinned, fun live => live⟩
  joins : ∀ id : ItemId, id.index < world.items.size → ∀ outer block,
    after.block? outer = some block → id ∈ block.items →
      ∃ old, world.block? outer = some old ∧ id ∈ old.items := by
    exact fun _ _ _ block found member => ⟨block, found, member⟩

theorem Frame.refl (world : World σ) : Frame world world := {}

/-- Frames may follow one another. -/
theorem Frame.trans (left : Frame world middle) (right : Frame middle after) :
    Frame world after where
  fits :=
    ⟨Nat.le_trans left.fits.bags right.fits.bags,
      Nat.le_trans left.fits.lists right.fits.lists,
      Nat.le_trans left.fits.widgets right.fits.widgets,
      Nat.le_trans left.fits.handles right.fits.handles⟩
  loaded := Nat.le_trans left.loaded right.loaded
  handleCount := right.handleCount.trans left.handleCount
  handles id := ⟨(right.handles id).1.trans (left.handles id).1,
    (right.handles id).2.1.trans (left.handles id).2.1,
    (right.handles id).2.2.1.trans (left.handles id).2.2.1, fun earlier =>
      ((right.handles id).2.2.2 (left.handleCount ▸ earlier)).trans
        ((left.handles id).2.2.2 earlier)⟩
  topControllers := right.topControllers.trans left.topControllers
  blockCount := Nat.le_trans left.blockCount right.blockCount
  itemCount := Nat.le_trans left.itemCount right.itemCount
  items id pinned := by
    obtain ⟨between, liveBetween⟩ := left.items id pinned
    obtain ⟨later, liveLater⟩ := right.items id between
    exact ⟨later, fun live => liveLater (liveBetween live)⟩
  joins id inside outer block found member := by
    obtain ⟨between, foundBetween, memberBetween⟩ :=
      right.joins id (Nat.lt_of_lt_of_le inside left.itemCount) outer block
        found member
    exact left.joins id inside outer between foundBetween memberBetween

theorem Calm.frame (calm : Calm world after)
    (pins : ∀ id : ItemId, .item id ∈ world.pins → .item id ∈ after.pins) :
    Frame world after where
  fits := calm.fits
  loaded := calm.loaded
  handleCount := congrArg Store.size calm.handles
  handles id := by
    rw [calm.handle]
    exact ⟨rfl, rfl, rfl, fun _ => rfl⟩
  topControllers := calm.topControllers
  blockCount := Nat.le_of_eq (congrArg Store.size calm.blocks.symm)
  itemCount := Nat.le_of_eq (congrArg Store.size calm.items.symm)
  items id pinned := ⟨pins id pinned, fun live => by rwa [calm.item]⟩
  joins id _ outer block found member :=
    ⟨block, (calm.block? outer).symm.trans found, member⟩

theorem frame_updateItem (world : World σ) (id : ItemId)
    {change : Item → Item} (live : ∀ old, (change old).live = old.live) :
    Frame world (world.updateItem id change) where
  itemCount := Nat.le_of_eq (Store.size_update ..).symm
  items other pinned := by
    refine ⟨pinned, fun alive => ?_⟩
    rw [item_updateItem]
    split
    · rwa [live]
    · exact alive

theorem frame_updateBlock (world : World σ) (id : BlockId) {change : Block → Block}
    (items : ∀ old : Block, (change old).items ⊆ old.items) :
    Frame world (world.updateBlock id change) where
  blockCount := Nat.le_of_eq (Store.size_update ..).symm
  joins other _ outer block found member := by
    rw [block?_updateBlock] at found
    split at found
    · obtain ⟨old, foundOld, rfl⟩ := Option.map_eq_some_iff.mp found
      exact ⟨old, foundOld, items old member⟩
    · exact ⟨block, found, member⟩

/-- A part of a document has been built, or the attempt has failed. -/
structure Grows (host : WidgetId) (start world after : World σ) : Prop where
  frame : Frame world after
  good : Good host start after
  pins : after.pins = world.pins

theorem Grows.refl (good : Good host start world) : Grows host start world world :=
  ⟨.refl world, good, rfl⟩

theorem Grows.trans (left : Grows host start world middle)
    (right : Grows host start middle after) : Grows host start world after :=
  ⟨left.frame.trans right.frame, right.good, right.pins.trans left.pins⟩

theorem Quiet.grows (quiet : Quiet host start world after) :
    Grows host start world after :=
  ⟨quiet.calm.frame fun _ member => quiet.pins ▸ member, quiet.good, quiet.pins⟩

/-- Parts that grow one after the other have grown together. -/
theorem Grows.bind {α β : Type} {attempt : Attempt σ α}
    {next : α → Attempt σ β}
    (first : Grows host start world (attempt.run world).2)
    (second :
      ∀ result,
        (attempt.run world).1 = .ok result →
        Grows host start (attempt.run world).2
          ((next result).run (attempt.run world).2).2) :
    Grows host start world ((attempt >>= next).run world).2 := by
  rw [Attempt.bind_run]
  rcases run : attempt.run world with ⟨outcome, after⟩
  rw [run] at first second
  cases outcome with
  | error => exact first
  | ok result => exact first.trans (second result rfl)

theorem Grows.perform {α β : Type} {action : Action σ α}
    {next : α → Attempt σ β} (first : Grows host start world (action world).2)
    (second :
      Grows host start (action world).2
        ((next (action world).1).run (action world).2).2) :
    Grows host start world
      (((liftM action : Attempt σ α) >>= next).run world).2 :=
  .bind first fun result gave => by
    cases gave
    exact second

theorem Frame.pin (world : World σ) (things : List Owned) :
    Frame world (world.pin things) := by
  refine (SameState.calm (show SameState world (world.pin things) from rfl)
    rfl).frame ?_
  intro _ member
  exact List.mem_append_right _ member

theorem Additions.sameState (additions : Additions host start pending world)
    (same : SameState world after)
    (topControllers : after.topControllers = world.topControllers) :
    Additions host start pending after := by
  have calm := same.calm topControllers
  refine ⟨same.transition.sound additions.sound,
    same.transition.wired additions.wired,
    additions.listeners.sameState same, ?_, ?_, ?_⟩
  · refine additions.loops.same calm.listeners (fun _ _ => calm.accounted) ?_
    intro keeper _ record member
    exact .inl (calm.kept keeper ▸ member)
  · exact additions.items.same calm.items calm.blocks fun id => by
      rw [calm.listeners]
      exact List.Subset.refl _
  · refine additions.widgets.same calm.widgetCount calm.tree
      (congrArg Store.size calm.handles) (fun id _ => calm.handle id) ?_
      calm.topControllers
    intro id
    exact congrArg Handle.root (calm.handle id)

/-- A sweep leaves the documents and the items that are kept. -/
theorem frame_sweep (wired : world.Wired) : Frame world world.sweep where
  fits := (Cuts.later wired.sweeps_sweep).fits
  loaded := (Cuts.later wired.sweeps_sweep).loaded
  handleCount := congrArg Store.size (Cuts.handles wired.sweeps_sweep)
  handles id := by
    rw [Cuts.handle wired.sweeps_sweep]
    exact ⟨rfl, rfl, rfl, fun _ => rfl⟩
  topControllers := by rw [Cuts.rest wired.sweeps_sweep]
  blockCount := Nat.le_of_eq (fades_sweep world).blockCount.symm
  itemCount := Nat.le_of_eq (fades_sweep world).itemCount.symm
  items id pinned := by
    rw [item_sweep_of_pin pinned, pins_sweep wired]
    exact ⟨pinned, fun live => live⟩
  joins id _ outer block found member := by
    obtain ⟨old, foundOld, same⟩ := (fades_sweep world).blocks outer block found
    refine ⟨old, foundOld, ?_⟩
    rcases same with rfl | ⟨_, none⟩
    · exact member
    · rw [none] at member
      cases member

/-- A sweep makes a world good that only lacks owners. -/
theorem Additions.good_sweep (additions : Additions host start [] world)
    (tidy : start.Tidy) (pins : ∀ thing ∈ start.pins, thing ∈ world.pins) :
    Good host start world.sweep where
  tidy
  additions := additions.sweep tidy pins
  swept := swept_sweep world
  pins := by
    rw [pins_sweep additions.wired]
    exact pins

/-- The end of an operation that has kept things: what nothing owns any more is
swept away. -/
theorem Frame.release {things : List Owned} (frame : Frame (world.pin things) after)
    (additions : Additions host start [] after) (tidy : start.Tidy)
    (pins : ∀ thing ∈ start.pins, thing ∈ world.pins) :
    Grows host start world (World.sweep { after with pins := world.pins }) := by
  have same : SameState after { after with pins := world.pins } := rfl
  have released := additions.sameState same rfl
  have swept := frame_sweep released.wired
  have calm : Calm after { after with pins := world.pins } := same.calm rfl
  refine ⟨?_, released.good_sweep tidy pins, pins_sweep released.wired⟩
  refine Frame.trans ?_ swept
  exact {
    fits := ⟨frame.fits.bags, frame.fits.lists, frame.fits.widgets,
      frame.fits.handles⟩
    loaded := frame.loaded
    handleCount := frame.handleCount
    handles := frame.handles
    topControllers := frame.topControllers
    blockCount := frame.blockCount
    itemCount := frame.itemCount
    items := fun id pinned => ⟨pinned, fun live =>
      (frame.items id (List.mem_append_right _ pinned)).2 live⟩
    joins := frame.joins }

/-- An attempt during which things are kept. -/
theorem Frame.attempting {α : Type} {things : List Owned}
    {attempt : Attempt σ α}
    (frame : Frame (world.pin things) (attempt.run (world.pin things)).2)
    (additions : Additions host start [] (attempt.run (world.pin things)).2)
    (tidy : start.Tidy) (pins : ∀ thing ∈ start.pins, thing ∈ world.pins) :
    Grows host start world
      ((LiveMarkup.attempting things attempt).run world).2 :=
  frame.release additions tidy pins

theorem attempting_result {α : Type} {things : List Owned}
    {attempt : Attempt σ α} :
    ((LiveMarkup.attempting things attempt).run world).1 =
      (attempt.run (world.pin things)).1 :=
  rfl

/-! ## Changes of the tree -/

theorem Alters.trans (left : Alters world middle) (right : Alters middle after) :
    Alters world after where
  agrees := left.agrees.trans left.fits right.agrees
  fits := (left.later.trans right.later).fits
  loaded := right.loaded.trans left.loaded
  bindings := right.bindings.trans left.bindings
  sound sound := by
    have between := left.sound sound
    rw [← left.loaded] at between ⊢
    exact right.sound between
  listeners post := (right.listeners post).trans (left.listeners post)
  kept keeper record member := by
    rcases right.kept keeper record member with before | list
    · exact left.kept keeper record before
    · exact .inr list
  plain slot has plain :=
    left.plain slot has (right.plain slot (left.fits.has has) plain)

theorem Alters.refl (world : World σ) : Alters world world :=
  ⟨.refl world, .refl world, rfl, rfl, fun sound => sound, fun _ => rfl,
    fun _ _ member => .inl member, fun _ _ plain => plain⟩

/-- Widgets have changed in their place in the tree and in their events alone. -/
structure Retrees (world after : World σ) : Prop where
  rest : after = { world with widgets := after.widgets, journal := after.journal }
  alters : Alters world after
  widgetCount : after.widgets.size = world.widgets.size

theorem Retrees.refl (world : World σ) : Retrees world world :=
  ⟨rfl, .refl world, rfl⟩

theorem Retrees.trans (left : Retrees world middle) (right : Retrees middle after) :
    Retrees world after := by
  refine ⟨?_, left.alters.trans right.alters,
    right.widgetCount.trans left.widgetCount⟩
  rw [right.rest, left.rest]

theorem retrees_updateWidget (world : World σ) (id : WidgetId)
    {change : Widget → Widget}
    (same :
      ∀ old, ∃ children parent connections,
        change old = { old with children, parent, connections }) :
    Retrees world (world.updateWidget id change) := by
  refine ⟨rfl, (writesWidget_sameFields id (fun old => ?_) (fun old => ?_)
    fun old => ?_).alters, Store.size_update ..⟩ <;>
  · obtain ⟨_, _, _, equal⟩ := same old
    rw [equal]

theorem retrees_record (world : World σ) (call : ToolkitCall) :
    Retrees world (world.record call) := by
  refine ⟨rfl, ?_, rfl⟩
  refine ⟨?_, ?_, rfl, rfl, ?_, ?_, ?_, ?_⟩
  · exact ⟨rfl, rfl, rfl, rfl, fun _ _ => rfl, fun _ _ => rfl, fun _ _ => rfl,
      fun _ _ => rfl, fun _ _ => rfl, fun _ _ _ _ found => found⟩
  · exact ⟨Nat.le_refl _, Nat.le_refl _, Nat.le_refl _, Nat.le_refl _⟩
  · exact (show SameState world (world.record call) from rfl).transition.sound
  · intro post
    cases post <;> rfl
  · intro keeper _ member
    exact .inl (by cases keeper <;> exact member)
  · intro slot _ plain
    obtain ⟨object, name⟩ := slot
    cases object <;> exact plain

/-- Changes to the tree alone leave the documents and the items. -/
theorem Retrees.frame (retrees : Retrees world after) : Frame world after := by
  refine ⟨retrees.alters.fits, Nat.le_of_eq retrees.alters.loaded.symm, ?_,
    fun id => ?_, ?_, ?_, ?_, fun id pinned => ?_,
    fun id _ outer block found member => ⟨block, ?_, member⟩⟩
  · rw [retrees.rest]
  · rw [retrees.rest]
    exact ⟨rfl, rfl, rfl, fun _ => rfl⟩
  · rw [retrees.rest]
  · rw [retrees.rest]
  · rw [retrees.rest]
  · rw [retrees.rest]
    exact ⟨pinned, fun live => live⟩
  · rw [retrees.rest] at found
    exact found

/-- Changes to the tree alone leave what was there at the start, if the widgets
do. -/
theorem Retrees.additions (retrees : Retrees world after)
    (additions : Additions host start pending world)
    (widgets : AddsWidgets host start after) :
    Additions host start pending after := by
  have kept : ∀ keeper, after.kept keeper = world.kept keeper := fun keeper => by
    rw [retrees.rest]
    cases keeper <;> rfl
  have accounted : ∀ {record}, Accounted start world pending record →
      Accounted start after pending record :=
    fun accounted => accounted.mono .inl fun keeper new member =>
      .inr ⟨keeper, new, (kept keeper).symm ▸ member⟩
  refine ⟨?_, retrees.alters.wired additions.wired, ?_, ?_, ?_, widgets⟩
  · rw [retrees.alters.loaded]
    exact retrees.alters.sound additions.sound
  · refine additions.listeners.same retrees.alters.listeners retrees.alters.bindings
      (fun _ _ _ object _ _ => ?_) fun _ => accounted
    rw [retrees.rest]
    cases object <;> rfl
  · refine additions.loops.same (fun _ => ?_) (fun _ _ => accounted)
      fun keeper _ record member => .inl (kept keeper ▸ member)
    rw [retrees.rest]
    rfl
  · refine additions.items.same (by rw [retrees.rest]) (by rw [retrees.rest])
      fun id => ?_
    rw [retrees.rest]
    exact List.Subset.refl _

theorem Retrees.swept (retrees : Retrees world after) (swept : world.Swept) :
    after.Swept where
  blocks id block found live := by
    rw [retrees.rest] at found ⊢
    exact swept.blocks id block found live
  items id live := by
    rw [retrees.rest] at live ⊢
    exact swept.items id live

theorem Retrees.grows (retrees : Retrees world after) (good : Good host start world)
    (widgets : AddsWidgets host start after) : Grows host start world after := by
  have pins : after.pins = world.pins := by rw [retrees.rest]
  exact ⟨retrees.frame,
    ⟨good.tidy, retrees.additions good.additions widgets,
      retrees.swept good.swept, pins ▸ good.pins⟩, pins⟩

/-- Old widgets keep their old children, and get new ones only as the roots of
documents. -/
theorem AddsWidgets.retree (adds : AddsWidgets host start world)
    (widgetCount : after.widgets.size = world.widgets.size)
    (handles : after.handles = world.handles)
    (topControllers : after.topControllers = world.topControllers)
    (children :
      ∀ id,
        id.index < start.widgets.size →
        (after.widget id).children.filter
          (fun child => decide (child.index < start.widgets.size)) =
          (world.widget id).children.filter fun child =>
            decide (child.index < start.widgets.size))
    (attached :
      ∀ id,
        id.index < start.widgets.size →
        ∀ child ∈ (after.widget id).children,
          start.widgets.size ≤ child.index →
            (child ∈ (world.widget id).children ∧
             (after.widget child).parent = (world.widget child).parent) ∨
            (id = host ∧
             (after.widget child).parent = some host ∧
             ∃ handle,
               start.handles.size ≤ handle.index ∧
               (world.handle handle).root = some child))
    (once :
      ∀ id,
        id.index < start.widgets.size →
        ((after.widget id).children.filter fun child =>
          decide (start.widgets.size ≤ child.index)).Nodup)
    (connections :
      ∀ id, ∀ entry ∈ (after.widget id).connections,
        entry ∈ (world.widget id).connections ∨
        ∃ controller name, entry.2 = .controller controller name) :
    AddsWidgets host start after where
  widgetCount := widgetCount ▸ adds.widgetCount
  handleCount := handles ▸ adds.handleCount
  oldHandles id old := by
    simp only [handle, handles]
    exact adds.oldHandles id old
  roots id root new found := by
    simp only [handle, handles] at found
    exact adds.roots id root new found
  children id old := (children id old).trans (adds.children id old)
  attached id old child member new := by
    simp only [handle, handles]
    rcases attached id old child member new with ⟨before, parent⟩ | come
    · rw [parent]
      exact adds.attached id old child before new
    · exact come
  once := once
  connections id new entry member :=
    (connections id entry member).elim (adds.connections id new entry)
      fun come => come
  topControllers := topControllers ▸ adds.topControllers

theorem filter_erase_of_not {α : Type} [DecidableEq α] {keep : α → Bool} {thing : α}
    (outside : keep thing = false) (things : List α) :
    (things.erase thing).filter keep = things.filter keep := by
  induction things with
  | nil => rfl
  | cons first rest hypothesis =>
    by_cases here : first = thing
    · subst here
      rw [List.erase_cons_head, List.filter_cons, outside]
      rfl
    · rw [List.erase_cons_tail (by simpa using here), List.filter_cons,
        List.filter_cons, hypothesis]

theorem retrees_removeChild (world : World σ) (parent child : WidgetId) :
    Retrees world (world.removeChild parent child) := by
  unfold World.removeChild
  split
  · exact (retrees_updateWidget world parent fun old =>
      ⟨_, old.parent, old.connections, rfl⟩).trans
      (retrees_updateWidget _ child fun old =>
        ⟨old.children, none, old.connections, rfl⟩)
  · exact .refl world

/-- A new widget is taken away from its parent. -/
theorem AddsWidgets.removeChild (adds : AddsWidgets host start world)
    {parent child : WidgetId} (new : start.widgets.size ≤ child.index)
    (below : (world.widget child).parent = some parent) :
    AddsWidgets host start (world.removeChild parent child) ∧
    ∀ id,
      id.index < start.widgets.size →
      child ∉ ((world.removeChild parent child).widget id).children := by
  have outside : decide (child.index < start.widgets.size) = false :=
    decide_eq_false (Nat.not_lt.mpr new)
  have inside : decide (start.widgets.size ≤ child.index) = true :=
    decide_eq_true new
  have gone : ∀ id, id.index < start.widgets.size →
      child ∉ ((world.removeChild parent child).widget id).children := by
    intro id old member
    rw [children_removeChild] at member
    split at member
    case isTrue here =>
      have single := adds.once id old
      have listed : child ∈ ((world.widget id).children.erase child).filter
          fun child => decide (start.widgets.size ≤ child.index) :=
        List.mem_filter.mpr ⟨member, inside⟩
      rw [← List.erase_filter] at listed
      exact single.not_mem_erase listed
    case isFalse elsewhere =>
      obtain ⟨same, parentSame, _⟩ := adds.attached id old child member new
      rw [below] at parentSame
      exact elsewhere ((Option.some.inj parentSame).trans same.symm)
  refine ⟨adds.retree (retrees_removeChild world parent child).widgetCount (by
      rw [(retrees_removeChild world parent child).rest]) (by
      rw [(retrees_removeChild world parent child).rest]) (fun id old => ?_)
      (fun id old other member newOther => .inl ?_) (fun id old => ?_)
        fun id entry member => .inl ?_,
    gone⟩
  · rw [children_removeChild]
    split
    · exact @filter_erase_of_not _ _
        (fun child : WidgetId => decide (child.index < start.widgets.size)) _
        outside _
    · rfl
  · have apart : other ≠ child := fun same => gone id old (same ▸ member)
    refine ⟨?_, parent_removeChild apart⟩
    rw [children_removeChild] at member
    split at member
    · exact List.mem_of_mem_erase member
    · exact member
  · rw [children_removeChild]
    split
    · exact (adds.once id old).sublist ((List.erase_sublist ..).filter _)
    · exact adds.once id old
  · rwa [connections_removeChild] at member

/-- A new widget is taken away from where it was. -/
theorem AddsWidgets.detach (adds : AddsWidgets host start world)
    {child : WidgetId} (new : start.widgets.size ≤ child.index) :
    AddsWidgets host start (world.detach child) ∧
    ∀ id,
      id.index < start.widgets.size →
      child ∉ ((world.detach child).widget id).children := by
  unfold World.detach
  split
  case h_1 parent below => exact adds.removeChild new below
  case h_2 none =>
    refine ⟨adds, fun id old member => ?_⟩
    obtain ⟨_, parent, _⟩ := adds.attached id old child member new
    rw [none] at parent
    cases parent

theorem retrees_detach (world : World σ) (child : WidgetId) :
    Retrees world (world.detach child) := by
  unfold World.detach
  split
  · exact retrees_removeChild ..
  · exact .refl world

theorem retrees_addChild (world : World σ) (parent child : WidgetId) :
    Retrees world (world.addChild parent child) :=
  ((retrees_detach world child).trans
    (retrees_updateWidget _ child fun old =>
      ⟨old.children, some parent, old.connections, rfl⟩)).trans
    (retrees_updateWidget _ parent fun old =>
      ⟨_, old.parent, old.connections, rfl⟩)

/-- A new widget is put below a new one, or as the root of a new document below
the host. -/
theorem AddsWidgets.addChild (adds : AddsWidgets host start world)
    {parent child : WidgetId} (new : start.widgets.size ≤ child.index)
    (inside : child.index < world.widgets.size)
    (place :
      start.widgets.size ≤ parent.index ∨
      (parent = host ∧
       ∃ handle,
         start.handles.size ≤ handle.index ∧
         (world.handle handle).root = some child)) :
    AddsWidgets host start (world.addChild parent child) := by
  obtain ⟨free, gone⟩ := adds.detach new
  have detached := retrees_detach world child
  have whole := retrees_addChild world parent child
  have children : ∀ id, ((world.addChild parent child).widget id).children =
      ((world.detach child).widget id).children ∨ (id = parent ∧
        ((world.addChild parent child).widget id).children =
          ((world.detach child).widget id).children ++ [child]) := by
    intro id
    have before := widget_project (world.detach child) child id
      (fun old => { old with parent := some parent }) Widget.children fun _ => rfl
    rw [World.addChild, widget_updateWidget]
    split
    case isTrue here => exact .inr ⟨here.1.symm, congrArg (· ++ [child]) before⟩
    case isFalse => exact .inl before
  have parents : ∀ id,
      ((world.addChild parent child).widget id).parent =
        if child = id then some parent
        else ((world.detach child).widget id).parent := by
    intro id
    rw [World.addChild, widget_project _ parent id (fun old =>
      { old with children := old.children ++ [child] }) Widget.parent fun _ =>
        rfl, widget_updateWidget]
    have count := detached.widgetCount
    by_cases same : child = id
    · rw [if_pos ⟨same, by rw [count]; exact inside⟩, if_pos same]
    · rw [if_neg fun both => same both.1, if_neg same]
  have handles : (world.detach child).handles = world.handles := by
    rw [detached.rest]
  have outside : decide (child.index < start.widgets.size) = false :=
    decide_eq_false (Nat.not_lt.mpr new)
  refine free.retree ?_ ?_ ?_ (fun id old => ?_)
    (fun id old other member newOther => ?_) (fun id old => ?_)
    fun id entry member => .inl ?_
  · exact whole.widgetCount.trans detached.widgetCount.symm
  · rw [whole.rest, detached.rest]
  · rw [whole.rest, detached.rest]
  · rcases children id with same | ⟨_, same⟩
    · rw [same]
    · rw [same, List.filter_append, List.filter_cons, outside]
      exact List.append_nil _
  · have listedBefore : other ∈ ((world.detach child).widget id).children →
        ((world.addChild parent child).widget other).parent =
          ((world.detach child).widget other).parent := by
      intro before
      rw [parents, if_neg]
      rintro rfl
      exact gone id old before
    rcases children id with same | ⟨here, same⟩
    · rw [same] at member
      exact .inl ⟨member, listedBefore member⟩
    · rw [same] at member
      rcases List.mem_append.mp member with before | last
      · exact .inl ⟨before, listedBefore before⟩
      · cases List.mem_singleton.mp last
        rcases place with newParent | ⟨isHost, handle, newHandle, root⟩
        · exact absurd (here ▸ old) (Nat.not_lt.mpr newParent)
        · refine .inr ⟨here.trans isHost, ?_, handle, newHandle, ?_⟩
          · rw [parents, if_pos rfl, isHost]
          · simp only [World.handle, handles]
            exact root
  · rcases children id with same | ⟨_, same⟩
    · rw [same]
      exact free.once id old
    · rw [same, List.filter_append]
      refine List.nodup_append.mpr
        ⟨free.once id old,
          (List.nodup_singleton child).sublist (List.filter_sublist ..),
          fun first member second last equal => ?_⟩
      have lastSame := List.mem_singleton.mp (List.mem_filter.mp last).1
      subst equal lastSame
      exact gone id old (List.mem_filter.mp member).1
  · rw [World.addChild, widget_project _ parent id (fun old =>
      { old with children := old.children ++ [child] }) Widget.connections
        fun _ => rfl,
      widget_project _ child id (fun old => { old with parent := some parent })
        Widget.connections
        fun _ => rfl] at member
    exact member

/-- The children or the events of a new widget change. -/
theorem AddsWidgets.updateNew (adds : AddsWidgets host start world)
    {id : WidgetId} {change : Widget → Widget}
    (new : start.widgets.size ≤ id.index)
    (parent : ∀ old, (change old).parent = old.parent)
    (connections :
      ∀ old, ∀ entry ∈ (change old).connections,
        entry ∈ old.connections ∨
        ∃ controller name, entry.2 = .controller controller name) :
    AddsWidgets host start (world.updateWidget id change) := by
  have same : ∀ other : WidgetId, other.index < start.widgets.size →
      (world.updateWidget id change).widget other = world.widget other := by
    intro other old
    rw [widget_updateWidget, if_neg]
    rintro ⟨rfl, _⟩
    exact absurd old (Nat.not_lt.mpr new)
  refine adds.retree (Store.size_update ..) rfl rfl (fun other old => ?_)
    (fun other old child member _ => .inl ⟨same other old ▸ member, ?_⟩)
    (fun other old => ?_) fun other entry member => ?_
  · rw [same other old]
  · exact widget_project world id child change Widget.parent parent
  · rw [same other old]
    exact adds.once other old
  · rw [widget_updateWidget] at member
    split at member
    · exact connections _ entry member
    · exact .inl member

theorem AddsWidgets.record (adds : AddsWidgets host start world)
    (call : ToolkitCall) : AddsWidgets host start (world.record call) :=
  adds.same rfl (fun _ => ⟨rfl, rfl, rfl⟩) rfl (fun _ _ => rfl) (fun _ => rfl) rfl

/-- A new widget may be hung below a new widget, or below the host. -/
theorem Good.addChild (good : Good host start world) (parent : WidgetId)
    {child : WidgetId} (new : start.widgets.size ≤ child.index)
    (inside : child.index < world.widgets.size)
    (place :
      start.widgets.size ≤ parent.index ∨
      (parent = host ∧
       ∃ handle,
         start.handles.size ≤ handle.index ∧
         (world.handle handle).root = some child)) :
    Grows host start world
      ((Toolkit.addChild parent child : Action σ Unit) world).2 :=
  ((retrees_record world _).trans (retrees_addChild _ parent child)).grows good
    ((good.additions.widgets.record _).addChild new inside place)

theorem Good.moveChild (good : Good host start world) {parent : WidgetId}
    (child : WidgetId) (new : start.widgets.size ≤ parent.index) (index : Nat) :
    Grows host start world
      ((Toolkit.moveChild parent child index : Action σ Unit) world).2 := by
  refine ((retrees_record world (.move parent child index)).trans
    (retrees_updateWidget _ parent fun old => ?_)).grows good
    ((good.additions.widgets.record _).updateNew new (fun old => ?_)
      fun old entry member => ?_)
  · split
    · exact ⟨_, old.parent, old.connections, rfl⟩
    · exact ⟨old.children, old.parent, old.connections, rfl⟩
  · split <;> rfl
  · split at member <;> exact .inl member

/-- A handler of a controller is connected to a new widget, or there is no such
event. -/
theorem Good.connect (good : Good host start world) {widget : WidgetId}
    (new : start.widgets.size ≤ widget.index) (event : String)
    (controller : Controller) (name : String) :
    Grows host start world
      ((Toolkit.connect widget event (.controller controller name)).run
        world).2 := by
  have noted := (retrees_record world (.connect widget event)).grows good
    (good.additions.widgets.record _)
  rw [Toolkit.connect, Attempt.bind_run, Attempt.modifyThe_run, WidgetId.connect]
  refine noted.trans (Grows.bind ?_ fun registered gave => ?_)
  · rw [WidgetId.event, Attempt.bind_run, Attempt.getThe_run]
    simp only
    split <;> exact .refl noted.good
  · have still :
        ((widget.event event).run (world.record (.connect widget event))).2 =
          world.record (.connect widget event) := by
      rw [WidgetId.event, Attempt.bind_run, Attempt.getThe_run]
      simp only
      split <;> rfl
    rw [still]
    exact (retrees_updateWidget _ widget fun old =>
      ⟨old.children, old.parent, _, rfl⟩).grows noted.good
      (noted.good.additions.widgets.updateNew new (fun _ => rfl)
        fun old entry member =>
          (List.mem_append.mp member).imp_right fun last =>
            ⟨controller, name, by rw [List.mem_singleton.mp last]⟩)

/-- A widget has come, below no other one. -/
theorem Good.newWidget (good : Good host start world) (cls : WidgetClass) :
    Grows host start world (world.newWidget cls).2 := by
  have alters := (furnishes_newWidget world cls).toAlters
  have old : ∀ id : WidgetId, id.index < world.widgets.size →
      (world.newWidget cls).2.widget id = world.widget id := by
    intro id inside
    rw [widget_newWidget, if_neg (Nat.ne_of_lt inside)]
  have adds := good.additions.widgets
  have count : (world.newWidget cls).2.widgets.size = world.widgets.size + 1 := by
    rw [World.newWidget, Store.size_add]
  have widgets : AddsWidgets host start (world.newWidget cls).2 := by
    refine { adds with
      widgetCount := by
        rw [count]
        exact Nat.le_succ_of_le adds.widgetCount
      children := fun id before => ?_
      attached := fun id before child member new => ?_
      once := fun id before => ?_
      connections := fun id new entry member => ?_ }
    · rw [old id (Nat.lt_of_lt_of_le before adds.widgetCount)]
      exact adds.children id before
    · rw [old id (Nat.lt_of_lt_of_le before adds.widgetCount)] at member
      obtain ⟨same, parent, root⟩ := adds.attached id before child member new
      refine ⟨same, ?_, root⟩
      rw [old child]
      · exact parent
      · refine Decidable.byContradiction fun outside => ?_
        rw [widget_of_not_lt outside] at parent
        cases parent
    · rw [old id (Nat.lt_of_lt_of_le before adds.widgetCount)]
      exact adds.once id before
    · rw [widget_newWidget] at member
      split at member
      · cases member
      · exact adds.connections id new entry member
  have calmAccounted : ∀ {record}, Accounted start world [] record →
      Accounted start (world.newWidget cls).2 [] record :=
    fun accounted => accounted.mono .inl fun keeper new member =>
      .inr ⟨keeper, new, by cases keeper <;> exact member⟩
  refine ⟨?_, ⟨good.tidy,
    ⟨alters.sound good.additions.sound, alters.wired good.additions.wired, ?_,
      ?_, good.additions.items.same rfl rfl fun _ => List.Subset.refl _,
      widgets⟩, ?_, good.pins⟩, rfl⟩
  · refine ⟨alters.fits, Nat.le_refl _, rfl, ?_, rfl, Nat.le_refl _,
      Nat.le_refl _, ?_, ?_⟩
    · intro _
      exact ⟨rfl, rfl, rfl, fun _ => rfl⟩
    · intro _ pinned
      exact ⟨pinned, fun live => live⟩
    · intro _ _ _ block found member
      exact ⟨block, found, member⟩
  · refine good.additions.listeners.same alters.listeners rfl ?_
      (fun _ => calmAccounted)
    intro _ _ _ object _ _
    cases object <;> rfl
  · refine good.additions.loops.same (fun _ => rfl)
      (fun _ _ => calmAccounted) ?_
    intro keeper _ record member
    exact .inl (by cases keeper <;> exact member)
  · exact ⟨good.swept.blocks, good.swept.items⟩

/-- A widget is created, or there is no such class. -/
theorem Good.createWidget (good : Good host start world) (name : String) :
    Grows host start world ((Toolkit.create name).run world).2 ∧
    ∀ id,
      ((Toolkit.create name).run world).1 = .ok id →
        start.widgets.size ≤ id.index ∧
        id.index < ((Toolkit.create name).run world).2.widgets.size := by
  have noted := (good.record (.create name)).grows
  rw [Toolkit.create, Attempt.bind_run, Attempt.modifyThe_run]
  simp only
  rw [Attempt.bind_run, Attempt.getThe_run]
  cases found : (world.record (.create name)).registry.find name with
  | none =>
    simp only [found]
    exact ⟨noted, fun id gave => by cases gave⟩
  | some cls =>
    simp only [found]
    refine ⟨noted.trans (noted.good.newWidget cls), fun id gave => ?_⟩
    cases gave
    refine ⟨noted.good.additions.widgets.widgetCount, ?_⟩
    change world.widgets.size < (world.widgets.add _).size
    rw [Store.size_add]
    exact Nat.lt_succ_self _

end LiveMarkup.World
