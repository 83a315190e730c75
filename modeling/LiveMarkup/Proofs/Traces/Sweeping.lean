import Mathlib.Data.Finset.Card
import LiveMarkup.Proofs.Traces.Cancelling

/-!
# Sweeping

A sweep releases loops and items until every one that is left has an owner, and
none that was there at the start: its owner is still there.
-/

namespace LiveMarkup.World

variable {σ : Type} {start world middle after : World σ} {host : WidgetId}
  {pending : List Subscription}

/-! ## Undoing what a keeper has registered -/

/-- Listeners, live properties and nothing else may differ. -/
def Loosens (world after : World σ) : Prop :=
  after = { world with
    bags := after.bags
    widgets := after.widgets
    lists := after.lists
    bindings := after.bindings }

theorem Loosens.trans (left : Loosens world middle) (right : Loosens middle after) :
    Loosens world after := by
  rw [Loosens, right, left]

theorem loosens_foldl {α : Type} {change : World σ → α → World σ}
    (each : ∀ world item, Loosens world (change world item)) (items : List α)
    (world : World σ) : Loosens world (items.foldl change world) := by
  induction items generalizing world with
  | nil => exact rfl
  | cons item rest hypothesis => exact (each world item).trans (hypothesis _)

theorem loosens_cancelListener (world : World σ) (record : Subscription) :
    Loosens world (world.cancelListener record) := by
  cases record with
  | object object number =>
    rw [cancelListener, updatePropertyListeners_eq]
    cases world.announcer object <;> rfl
  | list => rfl
  | binding => rfl

theorem loosens_cancel (world : World σ) (record : Subscription) :
    Loosens world (world.cancel record) := by
  cases record with
  | binding id =>
    rw [World.cancel, cancelBinding]
    split
    · rfl
    · have cleared :
          Loosens world (world.updateBinding id fun old =>
            { old with subscriptions := [] }) :=
        rfl
      exact cleared.trans (loosens_foldl loosens_cancelListener _ _)
  | object object number =>
    exact loosens_cancelListener world (.object object number)
  | list list number => rfl

theorem loosens_cancels (records : List Subscription) (world : World σ) :
    Loosens world (records.foldl World.cancel world) :=
  loosens_foldl loosens_cancel records world

/-- A new item may lose what it has, and gain loops that are later than the one
it belongs to. -/
theorem AddsItems.updateItem {id : ItemId} {change : Item → Item}
    (adds : AddsItems start world) (new : start.items.size ≤ id.index)
    (nested :
      ∀ block ∈ (change (world.item id)).nested,
        start.blocks.size ≤ block.index)
    (widgets :
      ∀ widget ∈ (change (world.item id)).widgets,
        start.widgets.size ≤ widget.index)
    (dead :
      (change (world.item id)).live = false →
      (change (world.item id)).subscriptions = [])
    (climbs :
      ∀ inner,
        (world.updateItem id change).Contains id inner →
          world.Contains id inner ∨
          ∀ outer block,
            world.block? outer = some block → id ∈ block.items →
            outer.index < inner.index) :
    AddsItems start (world.updateItem id change) where
  blockCount := adds.blockCount
  itemCount := by
    rw [World.updateItem, Store.size_update]
    exact adds.itemCount
  oldItems other old := by
    rw [item_updateItem, if_neg]
    · exact adds.oldItems other old
    · rintro ⟨rfl, _⟩
      exact absurd old (Nat.not_lt.mpr new)
  oldBlocks := adds.oldBlocks
  items other newOther := by
    rw [item_updateItem]
    split
    case isTrue here =>
      obtain ⟨rfl, _⟩ := here
      exact ⟨nested, widgets, dead⟩
    case isFalse => exact adds.items other newOther
  blocks outer block newOuter found := by
    rw [World.updateItem, Store.size_update]
    exact adds.blocks outer block newOuter found
  climbs outer block newOuter found item member inner contains := by
    by_cases same : id = item
    · subst same
      rcases climbs inner contains with before | later
      · exact adds.climbs outer block newOuter found id member inner before
      · exact later outer block found member
    · refine adds.climbs outer block newOuter found item member inner ?_
      simp only [Contains, item_updateItem, same, false_and, if_false] at contains
      exact contains

/-- The records of a new item are about to be undone. -/
theorem Additions.clearItem {id : ItemId}
    (additions : Additions host start [] world)
    (new : start.items.size ≤ id.index) :
    Additions host start (world.kept (.item id))
      (world.updateItem id fun old => { old with subscriptions := [] }) := by
  have cleared : ∀ keeper, ∀ record ∈ (world.updateItem id fun old =>
      { old with subscriptions := [] }).kept keeper,
        record ∈ world.kept keeper := by
    intro keeper record member
    cases keeper with
    | handle => exact member
    | item other =>
      simp only [World.kept, item_updateItem] at member
      split at member
      · cases member
      · exact member
  have accounted : ∀ record,
      Accounted start world [] record →
      Accounted start (world.updateItem id fun old =>
        { old with subscriptions := [] }) (world.kept (.item id)) record := by
    intro record accounted
    refine accounted.mono (fun none => by cases none)
      fun keeper newKeeper member => ?_
    by_cases own : keeper = .item id
    · exact .inl (own ▸ member)
    · refine .inr ⟨keeper, newKeeper, ?_⟩
      cases keeper with
      | handle => exact member
      | item other =>
        have apart : id ≠ other := fun same => own (same ▸ rfl)
        simpa only [World.kept, item_updateItem, apart, false_and, if_false]
          using member
  have furnishes :
      Alters world (world.updateItem id fun old =>
        { old with subscriptions := [] }) :=
    (furnishes_updateItem world id fun _ _ none =>
      absurd none List.not_mem_nil).toAlters
  refine ⟨furnishes.sound additions.sound, furnishes.wired additions.wired,
    ?_, ?_, ?_, ?_⟩
  · refine additions.listeners.same (fun _ => rfl) rfl ?_ (fun _ => accounted _)
    intro _ _ _ object _ _
    cases object <;> rfl
  · refine additions.loops.same (fun _ => rfl) (fun _ _ => accounted _) ?_
    intro keeper _ record member
    exact .inl (cleared keeper record member)
  · have before := additions.items.items id new
    refine additions.items.updateItem new before.1 before.2.1 (fun _ => rfl)
      fun inner contains => .inl ?_
    rcases contains with nested | ⟨list, number, recorded, listens⟩
    · simp only [item_updateItem] at nested
      split at nested <;> exact .inl nested
    · exact .inr ⟨list, number, cleared (.item id) _ recorded, listens⟩
  · exact additions.widgets.same rfl (fun _ => ⟨rfl, rfl, rfl⟩) rfl
      (fun _ _ => rfl) (fun _ => rfl) rfl

theorem Additions.cancelItem {id : ItemId}
    (additions : Additions host start [] world)
    (new : start.items.size ≤ id.index) :
    Additions host start [] (world.cancelItem id) :=
  .cancels _ _ (additions.clearItem new) (additions.loops.records (.item id) new)

/-- What an item is after its subscriptions have ended. -/
theorem item_cancelItem (world : World σ) (id other : ItemId) :
    (world.cancelItem id).item other =
      if id = other then { world.item other with subscriptions := [] }
      else world.item other := by
  have rest :
      Loosens (world.updateItem id fun old => { old with subscriptions := [] })
        (world.cancelItem id) :=
    loosens_cancels _ _
  have items : (world.cancelItem id).item other =
        (world.updateItem id fun old => { old with subscriptions := [] }).item
          other := by
    rw [rest]
    rfl
  rw [items, item_updateItem]
  by_cases same : id = other
  · subst same
    by_cases inside : id.index < world.items.size
    · simp [inside]
    · have absent := Store.get?_of_not_lt inside
      simp only [inside, and_false, if_false, if_true, World.item, absent,
        Option.getD_none]
      rfl
  · simp [same]

/-- Things in loops and items have gone: an item that differs is not live any
more, and a loop that differs has no items. -/
structure Fades (world after : World σ) : Prop where
  itemCount : after.items.size = world.items.size
  blockCount : after.blocks.size = world.blocks.size
  items : ∀ id, after.item id = world.item id ∨ (after.item id).live = false
  blocks : ∀ id block,
      after.block? id = some block →
      ∃ old,
        world.block? id = some old ∧
        (block = old ∨ (block.live = false ∧ block.items = []))

theorem Fades.refl (world : World σ) : Fades world world :=
  ⟨rfl, rfl, fun _ => .inl rfl, fun _ block found => ⟨block, found, .inl rfl⟩⟩

/-- What fades twice fades once. -/
theorem Fades.trans (left : Fades world middle) (right : Fades middle after) :
    Fades world after where
  itemCount := right.itemCount.trans left.itemCount
  blockCount := right.blockCount.trans left.blockCount
  items id := by
    rcases right.items id with same | dead
    · rw [same]
      exact left.items id
    · exact .inr dead
  blocks id block found := by
    obtain ⟨between, foundBetween, same⟩ := right.blocks id block found
    obtain ⟨old, foundOld, before⟩ := left.blocks id between foundBetween
    refine ⟨old, foundOld, ?_⟩
    rcases same with rfl | dead
    · exact before
    · exact .inr dead

theorem Fades.live (fades : Fades world after) {id : ItemId}
    (live : (after.item id).live = true) : (world.item id).live = true := by
  rcases fades.items id with same | dead
  · rwa [same] at live
  · rw [dead] at live
    cases live

theorem fades_releaseBlock (world : World σ) (id : BlockId) :
    Fades world (world.releaseBlock id) where
  itemCount := rfl
  blockCount := Store.size_update ..
  items _ := .inl rfl
  blocks other block found := by
    rw [releaseBlock, block?_updateBlock] at found
    split at found
    · obtain ⟨old, foundOld, rfl⟩ := Option.map_eq_some_iff.mp found
      exact ⟨old, foundOld, .inr ⟨rfl, rfl⟩⟩
    · exact ⟨block, found, .inl rfl⟩

theorem releaseItem_item (world : World σ) (id other : ItemId) :
    (world.releaseItem id).item other =
      if id = other then ⟨[], [], [], false⟩ else world.item other := by
  rw [releaseItem, item_updateItem, item_cancelItem]
  by_cases same : id = other
  · subst same
    have size : (world.cancelItem id).items.size = world.items.size := by
      have rest :
          Loosens (world.updateItem id fun old =>
            { old with subscriptions := [] }) (world.cancelItem id) :=
        loosens_cancels _ _
      rw [rest]
      exact Store.size_update ..
    by_cases inside : id.index < world.items.size
    · simp [size, inside]
    · have absent := Store.get?_of_not_lt inside
      simp only [size, inside, and_false, if_false, if_true, World.item, absent,
        Option.getD_none]
      rfl
  · simp [same]

theorem releaseItem_blocks (world : World σ) (id : ItemId) :
    (world.releaseItem id).blocks = world.blocks := by
  have rest :
      Loosens (world.updateItem id fun old => { old with subscriptions := [] })
        (world.cancelItem id) :=
    loosens_cancels _ _
  rw [releaseItem, World.updateItem]
  change (world.cancelItem id).blocks = _
  rw [rest]
  rfl

/-- Releasing an item lets it and its loops fade. -/
theorem fades_releaseItem (world : World σ) (id : ItemId) :
    Fades world (world.releaseItem id) where
  itemCount := by
    have rest :
        Loosens (world.updateItem id fun old =>
          { old with subscriptions := [] }) (world.cancelItem id) :=
      loosens_cancels _ _
    rw [releaseItem, World.updateItem, Store.size_update, rest]
    exact Store.size_update ..
  blockCount := congrArg Store.size (releaseItem_blocks world id)
  items other := by
    rw [releaseItem_item]
    split
    · exact .inr rfl
    · exact .inl rfl
  blocks other block found := by
    rw [World.block?, releaseItem_blocks] at found
    exact ⟨block, found, .inl rfl⟩

theorem fades_foldl {α : Type} {release : World σ → α → World σ}
    (each : ∀ world id, Fades world (release world id)) (ids : List α)
    (world : World σ) : Fades world (ids.foldl release world) := by
  induction ids generalizing world with
  | nil => exact .refl world
  | cons id rest hypothesis => exact (each world id).trans (hypothesis _)

theorem foldl_releaseBlock_dead {ids : List BlockId} {world : World σ}
    {id : BlockId} (member : id ∈ ids) {block : Block}
    (found : (ids.foldl releaseBlock world).block? id = some block) :
    block.live = false := by
  induction ids generalizing world with
  | nil => cases member
  | cons first rest hypothesis =>
    by_cases later : id ∈ rest
    · exact hypothesis later found
    · have same : id = first := (List.mem_cons.mp member).resolve_right later
      subst same
      obtain ⟨old, foundOld, before⟩ :=
        (fades_foldl fades_releaseBlock rest _).blocks id block found
      rw [releaseBlock, block?_updateBlock, if_pos rfl] at foundOld
      obtain ⟨_, _, rfl⟩ := Option.map_eq_some_iff.mp foundOld
      rcases before with rfl | dead
      · rfl
      · exact dead.1

theorem foldl_releaseItem_dead {ids : List ItemId} {world : World σ} {id : ItemId}
    (member : id ∈ ids) : ((ids.foldl releaseItem world).item id).live = false := by
  induction ids generalizing world with
  | nil => cases member
  | cons first rest hypothesis =>
    by_cases later : id ∈ rest
    · exact hypothesis later
    · have same : id = first := (List.mem_cons.mp member).resolve_right later
      subst same
      refine Bool.eq_false_iff.mpr fun live => ?_
      have before := (fades_foldl fades_releaseItem rest _).live live
      rw [releaseItem_item, if_pos rfl] at before
      cases before

/-! ## A sweep leaves nothing unowned -/

/-- How many loops and items are live. -/
def alive (world : World σ) : Nat :=
  ((Finset.range world.blocks.size).filter fun index =>
    (world.block? ⟨index⟩).any (·.live) = true).card +
  ((Finset.range world.items.size).filter fun index =>
    (world.item ⟨index⟩).live = true).card

theorem alive_le (world : World σ) :
    world.alive ≤ world.blocks.size + world.items.size :=
  Nat.add_le_add ((Finset.card_filter_le _ _).trans
    (Nat.le_of_eq (Finset.card_range _)))
    ((Finset.card_filter_le _ _).trans (Nat.le_of_eq (Finset.card_range _)))

theorem liveBlock_iff {id : BlockId} :
    (world.block? id).any (·.live) = true ↔
      ∃ block, world.block? id = some block ∧ block.live = true := by
  cases world.block? id <;> simp

theorem Fades.liveBlock (fades : Fades world after) {id : BlockId}
    (live : (after.block? id).any (·.live) = true) :
    (world.block? id).any (·.live) = true := by
  obtain ⟨block, found, lives⟩ := liveBlock_iff.mp live
  obtain ⟨old, foundOld, same⟩ := fades.blocks id block found
  rcases same with rfl | dead
  · exact liveBlock_iff.mpr ⟨block, foundOld, lives⟩
  · rw [dead.1] at lives
    cases lives

/-- Fading brings nothing back to life. -/
theorem Fades.alive_le (fades : Fades world after) : after.alive ≤ world.alive := by
  rw [alive, alive, fades.itemCount, fades.blockCount]
  refine Nat.add_le_add (Finset.card_le_card fun index member => ?_)
    (Finset.card_le_card fun index member => ?_)
  · rw [Finset.mem_filter] at member ⊢
    exact ⟨member.1, fades.liveBlock member.2⟩
  · rw [Finset.mem_filter] at member ⊢
    exact ⟨member.1, fades.live member.2⟩

theorem Fades.alive_lt_of_block (fades : Fades world after) {id : BlockId}
    (inside : id.index < world.blocks.size)
    (live : (world.block? id).any (·.live) = true)
    (dead : ¬ (after.block? id).any (·.live) = true) :
    after.alive < world.alive := by
  rw [alive, alive, fades.itemCount, fades.blockCount]
  refine Nat.add_lt_add_of_lt_of_le
    (Finset.card_lt_card ⟨fun index member => ?_, fun all => ?_⟩)
    (Finset.card_le_card fun index member => ?_)
  · rw [Finset.mem_filter] at member ⊢
    exact ⟨member.1, fades.liveBlock member.2⟩
  · have member := all (Finset.mem_filter.mpr ⟨Finset.mem_range.mpr inside, live⟩)
    exact dead (Finset.mem_filter.mp member).2
  · rw [Finset.mem_filter] at member ⊢
    exact ⟨member.1, fades.live member.2⟩

theorem Fades.alive_lt_of_item (fades : Fades world after) {id : ItemId}
    (inside : id.index < world.items.size) (live : (world.item id).live = true)
    (dead : (after.item id).live = false) : after.alive < world.alive := by
  rw [alive, alive, fades.itemCount, fades.blockCount]
  refine Nat.add_lt_add_of_le_of_lt (Finset.card_le_card fun index member => ?_)
    (Finset.card_lt_card ⟨fun index member => ?_, fun all => ?_⟩)
  · rw [Finset.mem_filter] at member ⊢
    exact ⟨member.1, fades.liveBlock member.2⟩
  · rw [Finset.mem_filter] at member ⊢
    exact ⟨member.1, fades.live member.2⟩
  · have member := all (Finset.mem_filter.mpr ⟨Finset.mem_range.mpr inside, live⟩)
    have still := (Finset.mem_filter.mp member).2
    rw [dead] at still
    cases still

theorem mem_unownedBlocks {id : BlockId} :
    id ∈ world.unownedBlocks ↔ id.index < world.blocks.size ∧
      (world.block? id).any (·.live) = true ∧ world.ownsBlock id = false := by
  simp only [unownedBlocks, List.mem_filter, List.mem_map, Store.indices,
    List.mem_range, Bool.and_eq_true, Bool.not_eq_true']
  constructor
  · rintro ⟨⟨index, inside, rfl⟩, live, free⟩
    exact ⟨inside, live, free⟩
  · rintro ⟨inside, live, free⟩
    exact ⟨⟨id.index, inside, rfl⟩, live, free⟩

theorem mem_unownedItems {id : ItemId} :
    id ∈ world.unownedItems ↔ id.index < world.items.size ∧
      (world.item id).live = true ∧ world.ownsItem id = false := by
  simp only [unownedItems, List.mem_filter, List.mem_map, Store.indices,
    List.mem_range, Bool.and_eq_true, Bool.not_eq_true']
  constructor
  · rintro ⟨⟨index, inside, rfl⟩, live, free⟩
    exact ⟨inside, live, free⟩
  · rintro ⟨inside, live, free⟩
    exact ⟨⟨id.index, inside, rfl⟩, live, free⟩

theorem item_inside {id : ItemId} (live : (world.item id).live = true) :
    id.index < world.items.size := by
  refine Decidable.byContradiction fun outside => ?_
  have absent := Store.get?_of_not_lt outside
  simp only [World.item, absent, Option.getD_none] at live
  cases live

/-- A world in which nothing live is without an owner is swept. -/
theorem swept_of_unowned (blocks : world.unownedBlocks = [])
    (items : world.unownedItems = []) : world.Swept where
  blocks id block found live := by
    refine Decidable.byContradiction fun free => ?_
    have member : id ∈ world.unownedBlocks := mem_unownedBlocks.mpr
      ⟨Store.lt_size_of_get? found, liveBlock_iff.mpr ⟨block, found, live⟩,
        Bool.eq_false_iff.mpr free⟩
    rw [blocks] at member
    cases member
  items id live := by
    refine Decidable.byContradiction fun free => ?_
    have member : id ∈ world.unownedItems :=
      mem_unownedItems.mpr ⟨item_inside live, live, Bool.eq_false_iff.mpr free⟩
    rw [items] at member
    cases member

theorem Swept.unowned (swept : world.Swept) :
    world.unownedBlocks = [] ∧ world.unownedItems = [] := by
  refine ⟨List.eq_nil_iff_forall_not_mem.mpr fun id member => ?_,
    List.eq_nil_iff_forall_not_mem.mpr fun id member => ?_⟩
  · obtain ⟨_, live, free⟩ := mem_unownedBlocks.mp member
    obtain ⟨block, found, lives⟩ := liveBlock_iff.mp live
    rw [swept.blocks id block found lives] at free
    cases free
  · obtain ⟨_, live, free⟩ := mem_unownedItems.mp member
    rw [swept.items id live] at free
    cases free

/-- Sweeping as often as there are live things leaves a swept world. -/
theorem swept_sweepWithin (rounds : Nat) (world : World σ)
    (enough : world.alive ≤ rounds) : (sweepWithin rounds world).Swept := by
  induction rounds generalizing world with
  | zero =>
    have none : world.alive = 0 := Nat.le_zero.mp enough
    rw [alive, Nat.add_eq_zero_iff, Finset.card_eq_zero, Finset.card_eq_zero]
      at none
    refine swept_of_unowned (List.eq_nil_iff_forall_not_mem.mpr fun id member => ?_)
      (List.eq_nil_iff_forall_not_mem.mpr fun id member => ?_)
    · obtain ⟨inside, live, _⟩ := mem_unownedBlocks.mp member
      exact absurd live (Finset.filter_eq_empty_iff.mp none.1
        (Finset.mem_range.mpr inside))
    · obtain ⟨inside, live, _⟩ := mem_unownedItems.mp member
      exact absurd live (Finset.filter_eq_empty_iff.mp none.2
        (Finset.mem_range.mpr inside))
  | succ rounds hypothesis =>
    rw [sweepWithin]
    have blocks := fades_foldl fades_releaseBlock world.unownedBlocks world
    have items := fades_foldl fades_releaseItem world.unownedItems
      (world.unownedBlocks.foldl releaseBlock world)
    split
    case isTrue nothing =>
      rw [Bool.and_eq_true, List.isEmpty_iff, List.isEmpty_iff] at nothing
      exact swept_of_unowned nothing.1 nothing.2
    case isFalse something =>
      refine hypothesis _ (Nat.le_of_lt_succ (Nat.lt_of_lt_of_le ?_ enough))
      cases first : world.unownedBlocks with
      | cons id rest =>
        have member : id ∈ world.unownedBlocks := first ▸ List.mem_cons_self ..
        obtain ⟨inside, live, _⟩ := mem_unownedBlocks.mp member
        rw [← first]
        refine Nat.lt_of_le_of_lt items.alive_le
          (blocks.alive_lt_of_block inside live fun still => ?_)
        obtain ⟨block, found, lives⟩ := liveBlock_iff.mp still
        rw [foldl_releaseBlock_dead member found] at lives
        cases lives
      | nil =>
        rw [first] at something items
        cases second : world.unownedItems with
        | nil =>
          rw [second] at something
          exact absurd rfl something
        | cons id rest =>
          have member : id ∈ world.unownedItems := second ▸ List.mem_cons_self ..
          obtain ⟨inside, live, _⟩ := mem_unownedItems.mp member
          rw [← second]
          exact items.alive_lt_of_item inside live (foldl_releaseItem_dead member)

/-- After a sweep every loop and every item that is left has an owner. -/
theorem swept_sweep (world : World σ) : world.sweep.Swept :=
  swept_sweepWithin _ world world.alive_le

/-- Where everything has an owner there is nothing to sweep. -/
theorem Swept.sweep_eq (swept : world.Swept) : world.sweep = world := by
  rw [sweep]
  cases world.blocks.size + world.items.size with
  | zero => rfl
  | succ rounds =>
    obtain ⟨blocks, items⟩ := swept.unowned
    rw [sweepWithin, blocks, items]
    rfl

theorem fades_sweepWithin (rounds : Nat) (world : World σ) :
    Fades world (sweepWithin rounds world) := by
  induction rounds generalizing world with
  | zero => exact .refl world
  | succ rounds hypothesis =>
    rw [sweepWithin]
    split
    · exact .refl world
    · exact ((fades_foldl fades_releaseBlock _ world).trans
        (fades_foldl fades_releaseItem _ _)).trans (hypothesis _)

theorem fades_sweep (world : World σ) : Fades world world.sweep :=
  fades_sweepWithin _ world

/-! ## A sweep leaves what is old -/

theorem ownsBlock_of_pin {id : BlockId} (pinned : .block id ∈ world.pins) :
    world.ownsBlock id = true := by
  simp only [ownsBlock, List.contains_iff_mem.mpr pinned, Bool.true_or]

theorem ownsItem_of_pin {id : ItemId} (pinned : .item id ∈ world.pins) :
    world.ownsItem id = true := by
  simp only [ownsItem, List.contains_iff_mem.mpr pinned, Bool.true_or]

theorem ownsBlock_of_listener {id : BlockId} {list : ListId} {number : Nat}
    (listens :
      (number, ListListener.block id) ∈ (world.list list).listeners.entries) :
    world.ownsBlock id = true := by
  have inside : list.index < world.lists.size := by
    refine Decidable.byContradiction fun outside => ?_
    have absent := Store.get?_of_not_lt outside
    simp only [World.list, absent, Option.getD_none] at listens
    cases listens
  have found : world.lists.get? list.index = some world.lists.entries[list.index] :=
    Array.getElem?_eq_getElem inside
  simp only [World.list, found, Option.getD_some] at listens
  have any :
      world.lists.entries.any
        (fun list => list.listeners.toList.contains (.block id)) = true :=
    Array.any_eq_true.mpr ⟨list.index, inside,
      List.contains_iff_mem.mpr (List.mem_map.mpr ⟨_, listens, rfl⟩)⟩
  simp only [ownsBlock, any, Bool.or_true, Bool.true_or]

theorem ownsBlock_of_item {id : BlockId} {item : ItemId}
    (live : (world.item item).live = true)
    (nested : id ∈ (world.item item).nested) : world.ownsBlock id = true := by
  have inside := item_inside live
  have found : world.items.get? item.index = some world.items.entries[item.index] :=
    Array.getElem?_eq_getElem inside
  simp only [World.item, found, Option.getD_some] at live nested
  have any :
      world.items.entries.any
        (fun item => item.live && item.nested.contains id) = true :=
    Array.any_eq_true.mpr ⟨item.index, inside, by
      rw [Bool.and_eq_true]
      exact ⟨live, List.contains_iff_mem.mpr nested⟩⟩
  simp only [ownsBlock, any, Bool.or_true]

theorem ownsItem_of_block {id : ItemId} {outer : BlockId} {block : Block}
    (found : world.block? outer = some block) (live : block.live = true)
    (member : id ∈ block.items) : world.ownsItem id = true := by
  have inside := Store.lt_size_of_get? found
  have equal : world.blocks.entries[outer.index] = block := by
    have present : world.blocks.get? outer.index =
          some world.blocks.entries[outer.index] :=
      Array.getElem?_eq_getElem inside
    exact Option.some.inj (present.symm.trans found)
  have any :
      world.blocks.entries.any
        (fun block => block.live && block.items.contains id) = true :=
    Array.any_eq_true.mpr ⟨outer.index, inside, by
      rw [equal, Bool.and_eq_true]
      exact ⟨live, List.contains_iff_mem.mpr member⟩⟩
  simp only [ownsItem, any, Bool.or_true]

/-- What was owned at the start is owned for as long as it is not released. -/
theorem Additions.ownsBlock (additions : Additions host start [] world)
    (pins : ∀ thing ∈ start.pins, thing ∈ world.pins) {id : BlockId}
    (owns : start.ownsBlock id = true) : world.ownsBlock id = true := by
  rcases ownsBlock_cases owns with pinned | ⟨list, number, listens⟩ |
    ⟨item, live, nested⟩
  · exact ownsBlock_of_pin (pins _ pinned)
  · refine @ownsBlock_of_listener _ _ _ list number ?_
    rw [← (additions.loops.lists list).entries] at listens
    exact (List.mem_filter.mp listens).1
  · have same := additions.items.oldItems item (item_inside live)
    rw [← same] at live nested
    exact ownsBlock_of_item live nested

theorem Additions.ownsItem (additions : Additions host start [] world)
    (pins : ∀ thing ∈ start.pins, thing ∈ world.pins) {id : ItemId}
    (owns : start.ownsItem id = true) : world.ownsItem id = true := by
  rcases ownsItem_cases owns with pinned | ⟨outer, block, found, live, member⟩
  · exact ownsItem_of_pin (pins _ pinned)
  · have same := additions.items.oldBlocks outer (Store.lt_size_of_get? found)
    exact ownsItem_of_block (same.trans found) live member

/-- Only what is new can have lost its owners. -/
theorem Additions.unowned_new (additions : Additions host start [] world)
    (tidy : start.Tidy) (pins : ∀ thing ∈ start.pins, thing ∈ world.pins) :
    (∀ id ∈ world.unownedBlocks, start.blocks.size ≤ id.index) ∧
    ∀ id ∈ world.unownedItems, start.items.size ≤ id.index := by
  refine ⟨fun id member => Nat.not_lt.mp fun old => ?_,
    fun id member => Nat.not_lt.mp fun old => ?_⟩
  · obtain ⟨_, live, free⟩ := mem_unownedBlocks.mp member
    obtain ⟨block, found, lives⟩ := liveBlock_iff.mp live
    rw [additions.items.oldBlocks id old] at found
    rw [additions.ownsBlock pins (tidy.swept.blocks id block found lives)] at free
    cases free
  · obtain ⟨_, live, free⟩ := mem_unownedItems.mp member
    rw [additions.items.oldItems id old] at live
    rw [additions.ownsItem pins (tidy.swept.items id live)] at free
    cases free

/-- A new loop may lose items, and gain ones that have nothing in them. -/
theorem AddsItems.updateBlock {id : BlockId} {change : Block → Block}
    (adds : AddsItems start world) (new : start.blocks.size ≤ id.index)
    (parent : ∀ old, (change old).parent = old.parent)
    (items :
      ∀ old,
        world.block? id = some old →
        ∀ item ∈ (change old).items,
          item ∈ old.items ∨
          ((start.items.size ≤ item.index ∧ item.index < world.items.size) ∧
           ∀ inner, ¬ world.Contains item inner)) :
    AddsItems start (world.updateBlock id change) where
  blockCount := by
    rw [World.updateBlock, Store.size_update]
    exact adds.blockCount
  itemCount := adds.itemCount
  oldItems := adds.oldItems
  oldBlocks other old := by
    rw [block?_updateBlock, if_neg]
    · exact adds.oldBlocks other old
    · rintro rfl
      exact absurd old (Nat.not_lt.mpr new)
  items := adds.items
  blocks other block newOther found := by
    rw [block?_updateBlock] at found
    split at found
    case isTrue same =>
      subst same
      obtain ⟨old, foundOld, rfl⟩ := Option.map_eq_some_iff.mp found
      have before := adds.blocks id old new foundOld
      refine ⟨fun item member => ?_, (parent old).symm ▸ before.2⟩
      rcases items old foundOld item member with there | come
      · exact before.1 item there
      · exact come.1
    case isFalse => exact adds.blocks other block newOther found
  climbs other block newOther found item member inner contains := by
    rw [block?_updateBlock] at found
    split at found
    case isTrue same =>
      subst same
      obtain ⟨old, foundOld, rfl⟩ := Option.map_eq_some_iff.mp found
      rcases items old foundOld item member with there | come
      · exact adds.climbs id old new foundOld item there inner contains
      · exact absurd contains (come.2 inner)
    case isFalse =>
      exact adds.climbs other block newOther found item member inner contains

/-- Loops and items have changed, and their subscriptions have not. -/
theorem Additions.rearrange (additions : Additions host start pending world)
    (alters : Alters world after) (items : AddsItems start after)
    (listeners : ∀ id, (after.list id).listeners = (world.list id).listeners)
    (kept : ∀ keeper, after.kept keeper = world.kept keeper)
    (widgets : after.widgets = world.widgets)
    (handles : after.handles = world.handles)
    (topControllers : after.topControllers = world.topControllers) :
    Additions host start pending after where
  sound := by
    rw [alters.loaded]
    exact alters.sound additions.sound
  wired := alters.wired additions.wired
  listeners :=
    additions.listeners.same alters.listeners alters.bindings
      (fun _ _ _ object _ _ =>
        by cases object <;> simp only [announcer, World.handle, handles])
      fun _ accounted => accounted.mono .inl fun keeper new member =>
        .inr ⟨keeper, new, (kept keeper).symm ▸ member⟩
  loops := additions.loops.same listeners
    (fun _ _ accounted => accounted.mono .inl fun keeper new member =>
      .inr ⟨keeper, new, (kept keeper).symm ▸ member⟩)
    fun keeper _ record member => .inl (kept keeper ▸ member)
  items
  widgets := additions.widgets.same (congrArg Store.size widgets)
    (fun id => by simp only [World.widget, widgets, and_self])
    (congrArg Store.size handles) (fun id _ => by simp only [World.handle, handles])
    (fun id => by simp only [World.handle, handles]) topControllers

theorem kept_updateItem (world : World σ) (id : ItemId) {change : Item → Item}
    (same : ∀ old, (change old).subscriptions = old.subscriptions)
    (keeper : SubscriptionKeeper) :
    (world.updateItem id change).kept keeper = world.kept keeper := by
  cases keeper with
  | handle => rfl
  | item other =>
    simp only [World.kept, item_updateItem]
    split
    · exact same _
    · rfl

theorem Additions.updateItem {id : ItemId} {change : Item → Item}
    (additions : Additions host start pending world)
    (same : ∀ old, (change old).subscriptions = old.subscriptions)
    (items : AddsItems start (world.updateItem id change)) :
    Additions host start pending (world.updateItem id change) :=
  additions.rearrange
    (furnishes_updateItem world id fun old _ member =>
      .inl (same old ▸ member)).toAlters items (fun _ => rfl)
    (kept_updateItem world id same) rfl rfl rfl

theorem Additions.updateBlock {id : BlockId} {change : Block → Block}
    (additions : Additions host start pending world)
    (same :
      ∀ old,
        (change old).handle = old.handle ∧ (change old).parent = old.parent ∧
        (change old).scope = old.scope)
    (items : AddsItems start (world.updateBlock id change)) :
    Additions host start pending (world.updateBlock id change) :=
  additions.rearrange (furnishes_updateBlock world id same).toAlters items
    (fun _ => rfl) (fun keeper => by cases keeper <;> rfl) rfl rfl rfl

theorem Additions.releaseBlock {id : BlockId}
    (additions : Additions host start [] world)
    (new : start.blocks.size ≤ id.index) :
    Additions host start [] (world.releaseBlock id) :=
  additions.updateBlock (fun _ => ⟨rfl, rfl, rfl⟩)
    (additions.items.updateBlock new (fun _ => rfl) fun _ _ _ none =>
      absurd none List.not_mem_nil)

theorem Additions.releaseItem {id : ItemId}
    (additions : Additions host start [] world)
    (new : start.items.size ≤ id.index) :
    Additions host start [] (world.releaseItem id) := by
  have cancelled := additions.cancelItem new
  refine cancelled.updateItem (fun _ => rfl)
    (cancelled.items.updateItem new ?_ ?_ ?_ fun inner contains => .inl ?_)
  · exact fun _ none => absurd none List.not_mem_nil
  · exact fun _ none => absurd none List.not_mem_nil
  · intro _
    rw [item_cancelItem, if_pos rfl]
  · rcases contains with nested | ⟨list, number, recorded, listens⟩
    · rw [item_updateItem] at nested
      split at nested
      · cases nested
      · exact .inl nested
    · rw [item_updateItem] at recorded
      split at recorded <;> exact .inr ⟨list, number, recorded, listens⟩

theorem releaseBlock_pins (world : World σ) (id : BlockId) :
    (world.releaseBlock id).pins = world.pins := rfl

theorem releaseItem_pins (world : World σ) (id : ItemId) :
    (world.releaseItem id).pins = world.pins := by
  have rest :
      Loosens (world.updateItem id fun old => { old with subscriptions := [] })
        (world.cancelItem id) :=
    loosens_cancels _ _
  change (world.cancelItem id).pins = _
  rw [rest]
  rfl

theorem Additions.foldl {α : Type} {release : World σ → α → World σ} {ids : List α}
    (each : ∀ world, Additions host start [] world → ∀ id ∈ ids,
      Additions host start [] (release world id))
    (additions : Additions host start [] world) :
    Additions host start [] (ids.foldl release world) := by
  induction ids generalizing world with
  | nil => exact additions
  | cons id rest hypothesis =>
    refine hypothesis ?_ (each world additions id (List.mem_cons_self ..))
    intro world additions id member
    exact each world additions id (List.mem_cons_of_mem _ member)

theorem foldl_pins {α : Type} {release : World σ → α → World σ}
    (each : ∀ world id, (release world id).pins = world.pins) (ids : List α)
    (world : World σ) : (ids.foldl release world).pins = world.pins := by
  induction ids generalizing world with
  | nil => rfl
  | cons id rest hypothesis => exact (hypothesis _).trans (each world id)

/-- Sweeping leaves the things that were there at the start. -/
theorem Additions.sweepWithin (tidy : start.Tidy) (rounds : Nat)
    (world : World σ) (additions : Additions host start [] world)
    (pins : ∀ thing ∈ start.pins, thing ∈ world.pins) :
    Additions host start [] (sweepWithin rounds world) := by
  induction rounds generalizing world with
  | zero => exact additions
  | succ rounds hypothesis =>
    rw [World.sweepWithin]
    split
    · exact additions
    · obtain ⟨newBlocks, newItems⟩ := additions.unowned_new tidy pins
      refine hypothesis _ ?_ ?_
      · refine Additions.foldl ?_
          (Additions.foldl (fun _ additions id member =>
            additions.releaseBlock (newBlocks id member)) additions)
        intro _ additions id member
        exact additions.releaseItem (newItems id member)
      · rw [foldl_pins releaseItem_pins, foldl_pins releaseBlock_pins]
        exact pins

/-- A sweep takes nothing that was there at the start. -/
theorem Additions.sweep (additions : Additions host start [] world)
    (tidy : start.Tidy) (pins : ∀ thing ∈ start.pins, thing ∈ world.pins) :
    Additions host start [] world.sweep :=
  .sweepWithin tidy _ world additions pins

theorem foldl_releaseItem_other {ids : List ItemId} {world : World σ} {id : ItemId}
    (other : id ∉ ids) : (ids.foldl releaseItem world).item id = world.item id := by
  induction ids generalizing world with
  | nil => rfl
  | cons first rest hypothesis =>
    refine (hypothesis fun later => other (List.mem_cons_of_mem _ later)).trans ?_
    rw [releaseItem_item, if_neg]
    rintro rfl
    exact other (List.mem_cons_self ..)

theorem foldl_releaseBlock_items (ids : List BlockId) (world : World σ) :
    (ids.foldl releaseBlock world).items = world.items := by
  induction ids generalizing world with
  | nil => rfl
  | cons first rest hypothesis => exact hypothesis _

/-- An item that is pinned survives the sweep. -/
theorem item_sweepWithin_of_pin {id : ItemId} (rounds : Nat) (world : World σ)
    (pinned : .item id ∈ world.pins) :
    (sweepWithin rounds world).item id = world.item id := by
  induction rounds generalizing world with
  | zero => rfl
  | succ rounds hypothesis =>
    rw [World.sweepWithin]
    split
    · rfl
    · have kept : id ∉ world.unownedItems := by
        intro member
        obtain ⟨_, _, free⟩ := mem_unownedItems.mp member
        rw [ownsItem_of_pin pinned] at free
        cases free
      rw [hypothesis, foldl_releaseItem_other kept]
      · simp only [World.item, foldl_releaseBlock_items]
      · rw [foldl_pins releaseItem_pins, foldl_pins releaseBlock_pins]
        exact pinned

/-- An item that an operation keeps is never released. -/
theorem item_sweep_of_pin {id : ItemId} (pinned : .item id ∈ world.pins) :
    world.sweep.item id = world.item id :=
  item_sweepWithin_of_pin _ world pinned

end LiveMarkup.World
