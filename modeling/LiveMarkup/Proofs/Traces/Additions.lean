import LiveMarkup.Rendering.Lifecycle
import LiveMarkup.Proofs.Bindings.Wiring

/-!
# What rendering adds to a world

Rendering adds widgets, live properties, loops and listeners to a world.  Every
listener that has come to something old is on record with a document or a loop
item that is new, and every new child of an old widget is the root of a new
document.  So when the new documents have ended and nothing unowned is left,
what is old looks as it did before.
-/

namespace LiveMarkup

/-! ## Listeners -/

namespace Listeners

variable {α : Type} {old new : Listeners α}

/-- Some listeners with others that came later: the earlier ones are still
there, in order. -/
structure Extends (old new : Listeners α) : Prop where
  ordered : new.Ordered
  next : old.next ≤ new.next
  entries : new.entries.filter (fun entry => decide (entry.1 < old.next)) =
        old.entries

theorem Extends.refl (ordered : old.Ordered) : old.Extends old where
  ordered
  next := Nat.le_refl _
  entries :=
    List.filter_eq_self.mpr fun entry member =>
      decide_eq_true (ordered.below entry member)

theorem Extends.subscribe (extended : old.Extends new) (listener : α) :
    old.Extends (new.subscribe listener) where
  ordered := extended.ordered.subscribe listener
  next := Nat.le_succ_of_le extended.next
  entries := by
    have later : decide (new.next < old.next) = false :=
      decide_eq_false (Nat.not_lt.mpr extended.next)
    simp only [Listeners.subscribe, List.filter_append, extended.entries,
      List.filter_cons, later, Bool.false_eq_true, if_false, List.filter_nil,
      List.append_nil]

theorem filter_eraseP {entries : List (Nat × α)} {number limit : Nat}
    (later : limit ≤ number) :
    (entries.eraseP (·.1 == number)).filter
      (fun entry => decide (entry.1 < limit)) =
      entries.filter fun entry => decide (entry.1 < limit) := by
  induction entries with
  | nil => rfl
  | cons entry entries hypothesis =>
    by_cases here : entry.1 = number
    · have outside : decide (entry.1 < limit) = false :=
        decide_eq_false (by rw [here]; exact Nat.not_lt.mpr later)
      rw [List.eraseP_cons_of_pos (by simpa using here), List.filter_cons, outside]
      rfl
    · rw [List.eraseP_cons_of_neg (by simpa using here), List.filter_cons,
        List.filter_cons, hypothesis]

theorem Extends.unsubscribe (extended : old.Extends new) {number : Nat}
    (later : old.next ≤ number) : old.Extends (new.unsubscribe number) where
  ordered := extended.ordered.unsubscribe number
  next := extended.next
  entries := (filter_eraseP later).trans extended.entries

/-- A listener with an earlier number is one of the earlier listeners. -/
theorem Extends.mem (extended : old.Extends new) {entry : Nat × α}
    (member : entry ∈ new.entries) (earlier : entry.1 < old.next) :
    entry ∈ old.entries := by
  rw [← extended.entries]
  exact List.mem_filter.mpr ⟨member, decide_eq_true earlier⟩

theorem Extends.eq (extended : old.Extends new)
    (nothing : ∀ entry ∈ new.entries, entry.1 < old.next) :
    new.entries = old.entries := by
  rw [← extended.entries]
  exact (List.filter_eq_self.mpr fun entry member =>
    decide_eq_true (nothing entry member)).symm

end Listeners

namespace World

variable {σ : Type} {start world : World σ} {host : WidgetId}

/-! ## Ownership -/

/-- Nothing is left in loops and items that nothing owns. -/
structure Swept (world : World σ) : Prop where
  blocks : ∀ id block,
      world.block? id = some block → block.live = true →
      world.ownsBlock id = true
  items : ∀ id, (world.item id).live = true → world.ownsItem id = true

/-- A loop belongs to an item: as one of its loops, or as one that the item has
registered. -/
def Contains (world : World σ) (item : ItemId) (inner : BlockId) : Prop :=
  inner ∈ (world.item item).nested ∨
    ∃ list number, .list list number ∈ (world.item item).subscriptions ∧
      (number, ListListener.block inner) ∈ (world.list list).listeners.entries

/-- A loop is owned by who pins it, by the list that it follows, or by an item
around it. -/
theorem ownsBlock_cases {id : BlockId} (owns : world.ownsBlock id = true) :
    .block id ∈ world.pins ∨
    (∃ list number,
      (number, ListListener.block id) ∈ (world.list list).listeners.entries) ∨
    ∃ item, (world.item item).live = true ∧ id ∈ (world.item item).nested := by
  simp only [ownsBlock, Bool.or_eq_true, List.contains_iff_mem, Array.any_eq_true,
    Bool.and_eq_true] at owns
  rcases owns with (pinned | ⟨index, inside, listens⟩) |
    ⟨index, inside, live, nested⟩
  · exact .inl pinned
  · obtain ⟨⟨number, listener⟩, member, rfl⟩ := List.mem_map.mp listens
    refine .inr (.inl ⟨⟨index⟩, number, ?_⟩)
    have found : world.lists.get? index = some world.lists.entries[index] :=
      Array.getElem?_eq_getElem inside
    simpa only [list, found, Option.getD_some] using member
  · have found : world.items.get? index = some world.items.entries[index] :=
      Array.getElem?_eq_getElem inside
    refine .inr (.inr ⟨⟨index⟩, ?_, ?_⟩)
    · simpa only [item, found, Option.getD_some] using live
    · simpa only [item, found, Option.getD_some] using nested

/-- An item is owned by who pins it, or by the live loop that it stands in. -/
theorem ownsItem_cases {id : ItemId} (owns : world.ownsItem id = true) :
    .item id ∈ world.pins ∨
    ∃ outer block,
      world.block? outer = some block ∧ block.live = true ∧
      id ∈ block.items := by
  simp only [ownsItem, Bool.or_eq_true, List.contains_iff_mem, Array.any_eq_true,
    Bool.and_eq_true] at owns
  rcases owns with pinned | ⟨index, inside, live, member⟩
  · exact .inl pinned
  · have found : world.blocks.get? index = some world.blocks.entries[index] :=
      Array.getElem?_eq_getElem inside
    exact .inr ⟨⟨index⟩, _, found, live, member⟩

/-! ## Additions -/

/-- Nothing that exists names a loop or an item that does not, and no loop or
item is unowned. -/
structure Tidy (start : World σ) : Prop where
  sound : start.Sound start.loaded
  wired : start.Wired
  swept : start.Swept
  ordered : ∀ id, (start.list id).listeners.Ordered
  listening : ∀ id number block,
      (number, ListListener.block block) ∈ (start.list id).listeners.entries →
      block.index < start.blocks.size
  nested : ∀ id, ∀ block ∈ (start.item id).nested, block.index < start.blocks.size
  items : ∀ id block, start.block? id = some block → ∀ item ∈ block.items,
    item.index < start.items.size
  pins : ∀ thing ∈ start.pins,
      (∀ id, thing = .block id → id.index < start.blocks.size) ∧
      ∀ id, thing = .item id → id.index < start.items.size
  children :
      ∀ id, ∀ child ∈ (start.widget id).children,
        child.index < start.widgets.size

/-- Who keeps subscriptions and was not there at the start. -/
def NewKeeper (start : World σ) : SubscriptionKeeper → Prop
  | .handle id => start.handles.size ≤ id.index
  | .item id => start.items.size ≤ id.index

/-- A record that someone new keeps, or that is about to be undone. -/
def Accounted (start world : World σ) (pending : List Subscription)
    (record : Subscription) : Prop :=
  record ∈ pending ∨ ∃ keeper, NewKeeper start keeper ∧ record ∈ world.kept keeper

/-- A record of a new live property, or of a new registration with a list. -/
def NewRecord (start : World σ) (record : Subscription) : Prop :=
  (∃ id : BindingId, record = .binding id ∧ start.bindings.size ≤ id.index) ∨
    ∃ list number, record = .list list number ∧
    (start.list list).listeners.next ≤ number

/-- The listeners of properties that have come: each is on record with a new
live property, and each new live property with someone new, as long as it
listens to anything. -/
structure AddsListeners (start : World σ) (pending : List Subscription)
    (world : World σ) : Prop where
  bindingCount : start.bindings.size ≤ world.bindings.size
  posts : ∀ post, (start.listenersAt post).Extends (world.listenersAt post)
  heard : ∀ post, ∀ entry ∈ (world.listenersAt post).entries,
      (start.listenersAt post).next ≤ entry.1 →
      ∃ id binding object generation property,
        entry.2 = .binding id generation property ∧
        start.bindings.size ≤ id.index ∧ world.binding? id = some binding ∧
        .object object entry.1 ∈ binding.subscriptions ∧
        world.announcer object = post
  widgets : ∀ id binding,
      start.bindings.size ≤ id.index → world.binding? id = some binding →
      start.widgets.size ≤ binding.widget.index
  accounted : ∀ id binding,
      start.bindings.size ≤ id.index → world.binding? id = some binding →
      binding.subscriptions ≠ [] →
      Accounted start world pending (.binding id)
  later : ∀ id binding,
      start.bindings.size ≤ id.index → world.binding? id = some binding →
      ∀ object number,
        .object object number ∈ binding.subscriptions →
        (start.listenersAt (world.announcer object)).next ≤ number

/-- The listeners of lists that have come: each is a new loop, on record with
someone new. -/
structure AddsLoops (start : World σ) (pending : List Subscription)
    (world : World σ) : Prop where
  lists : ∀ id, (start.list id).listeners.Extends (world.list id).listeners
  loops : ∀ id, ∀ entry ∈ (world.list id).listeners.entries,
      (start.list id).listeners.next ≤ entry.1 →
        (∃ block : BlockId,
          entry.2 = .block block ∧ start.blocks.size ≤ block.index) ∧
        Accounted start world pending (.list id entry.1)
  records : ∀ keeper,
      NewKeeper start keeper →
      ∀ record ∈ world.kept keeper, NewRecord start record
  below : ∀ keeper,
      NewKeeper start keeper →
      ∀ list number,
        .list list number ∈ world.kept keeper →
        number < (world.list list).listeners.next

/-- The loops and items that have come: old ones are as they were, and new ones
belong to each other, later loops to earlier ones. -/
structure AddsItems (start world : World σ) : Prop where
  blockCount : start.blocks.size ≤ world.blocks.size
  itemCount : start.items.size ≤ world.items.size
  oldItems : ∀ id, id.index < start.items.size → world.item id = start.item id
  oldBlocks : ∀ id, id.index < start.blocks.size → world.block? id = start.block? id
  items : ∀ id, start.items.size ≤ id.index →
    (∀ block ∈ (world.item id).nested, start.blocks.size ≤ block.index) ∧
      (∀ widget ∈ (world.item id).widgets, start.widgets.size ≤ widget.index) ∧
        ((world.item id).live = false → (world.item id).subscriptions = [])
  blocks : ∀ id block,
      start.blocks.size ≤ id.index → world.block? id = some block →
        (∀ item ∈ block.items,
          start.items.size ≤ item.index ∧ item.index < world.items.size) ∧
        start.widgets.size ≤ block.parent.index
  climbs : ∀ id block,
      start.blocks.size ≤ id.index → world.block? id = some block →
      ∀ item ∈ block.items, ∀ inner,
        world.Contains item inner → id.index < inner.index

/-- The widgets and documents that have come: an old widget has its old
children, and in the case of the host the roots of new documents besides. -/
structure AddsWidgets (host : WidgetId) (start world : World σ) : Prop where
  widgetCount : start.widgets.size ≤ world.widgets.size
  handleCount : start.handles.size ≤ world.handles.size
  oldHandles :
      ∀ id, id.index < start.handles.size → world.handle id = start.handle id
  roots : ∀ id root,
      start.handles.size ≤ id.index → (world.handle id).root = some root →
      start.widgets.size ≤ root.index
  children : ∀ id,
      id.index < start.widgets.size →
      (world.widget id).children.filter
        (fun child => decide (child.index < start.widgets.size)) =
        (start.widget id).children
  attached : ∀ id,
      id.index < start.widgets.size →
      ∀ child ∈ (world.widget id).children,
        start.widgets.size ≤ child.index →
          id = host ∧
          (world.widget child).parent = some host ∧
          ∃ handle,
            start.handles.size ≤ handle.index ∧
            (world.handle handle).root = some child
  once : ∀ id, id.index < start.widgets.size →
    ((world.widget id).children.filter fun child =>
      decide (start.widgets.size ≤ child.index)).Nodup
  connections : ∀ id,
      start.widgets.size ≤ id.index →
      ∀ entry ∈ (world.widget id).connections, ∃ controller name,
        entry.2 = .controller controller name
  topControllers : start.topControllers <+: world.topControllers

/-- A world that rendering has made of another one. -/
structure Additions (host : WidgetId) (start : World σ)
    (pending : List Subscription) (world : World σ) : Prop where
  sound : world.Sound world.loaded
  wired : world.Wired
  listeners : AddsListeners start pending world
  loops : AddsLoops start pending world
  items : AddsItems start world
  widgets : AddsWidgets host start world

theorem kept_of_new {keeper : SubscriptionKeeper} (new : NewKeeper start keeper) :
    start.kept keeper = [] := by
  cases keeper with
  | handle id =>
    have absent := Store.get?_of_not_lt (Nat.not_lt.mpr new)
    simp only [kept, handle, absent, Option.getD_none]
    rfl
  | item id =>
    have absent := Store.get?_of_not_lt (Nat.not_lt.mpr new)
    simp only [kept, item, absent, Option.getD_none]
    rfl

/-- At the start nothing has been added. -/
theorem Tidy.additions (tidy : start.Tidy) (host : WidgetId) :
    Additions host start [] start where
  sound := tidy.sound
  wired := tidy.wired
  listeners := {
    bindingCount := Nat.le_refl _
    posts := fun post => .refl (tidy.wired.ordered post)
    heard := fun post entry member later =>
      absurd ((tidy.wired.ordered post).below entry member) (Nat.not_lt.mpr later)
    widgets := fun id binding new found =>
      absurd (Store.lt_size_of_get? found) (Nat.not_lt.mpr new)
    accounted := fun id binding new found =>
      absurd (Store.lt_size_of_get? found) (Nat.not_lt.mpr new)
    later := fun id binding new found =>
      absurd (Store.lt_size_of_get? found) (Nat.not_lt.mpr new) }
  loops := {
    lists := fun id => .refl (tidy.ordered id)
    loops := fun id entry member later =>
      absurd ((tidy.ordered id).below entry member) (Nat.not_lt.mpr later)
    records := fun keeper new record member => by
      rw [kept_of_new new] at member
      exact absurd member List.not_mem_nil
    below := fun keeper new list number member => by
      rw [kept_of_new new] at member
      exact absurd member List.not_mem_nil }
  items := {
    blockCount := Nat.le_refl _
    itemCount := Nat.le_refl _
    oldItems := fun _ _ => rfl
    oldBlocks := fun _ _ => rfl
    items := fun id new => by
      have absent := Store.get?_of_not_lt (Nat.not_lt.mpr new)
      simp only [item, absent, Option.getD_none]
      refine ⟨?_, ?_, fun _ => rfl⟩
      · intro _ member
        exact absurd member List.not_mem_nil
      · intro _ member
        exact absurd member List.not_mem_nil
    blocks := fun id block new found =>
      absurd (Store.lt_size_of_get? found) (Nat.not_lt.mpr new)
    climbs := fun id block new found =>
      absurd (Store.lt_size_of_get? found) (Nat.not_lt.mpr new) }
  widgets := {
    widgetCount := Nat.le_refl _
    handleCount := Nat.le_refl _
    oldHandles := fun _ _ => rfl
    roots := fun id root new found => by
      have absent := Store.get?_of_not_lt (Nat.not_lt.mpr new)
      simp only [handle, absent, Option.getD_none] at found
      cases found
    children := fun id _ => List.filter_eq_self.mpr fun child member =>
      decide_eq_true (tidy.children id child member)
    attached := fun id _ child member new =>
      absurd (tidy.children id child member) (Nat.not_lt.mpr new)
    once := fun id _ => by
      have nothing : ((start.widget id).children.filter fun child =>
          decide (start.widgets.size ≤ child.index)) = [] :=
        List.filter_eq_nil_iff.mpr fun child member =>
          by simpa using tidy.children id child member
      rw [nothing]
      exact List.nodup_nil
    connections := fun id new entry member => by
      have absent := Store.get?_of_not_lt (Nat.not_lt.mpr new)
      simp only [widget, absent, Option.getD_none] at member
      exact absurd member List.not_mem_nil
    topControllers := List.prefix_refl _ }

/-! ## Nothing is left -/

/-- A document that has ended. -/
structure Ended (world : World σ) (id : HandleId) : Prop where
  imports : (world.handle id).imports = []
  subscriptions : (world.handle id).subscriptions = []
  root : (world.handle id).root = none

/-- What is old looks as it did. -/
structure Untouched (start after : World σ) : Prop where
  bags : ∀ id, (after.bag id).listeners.entries = (start.bag id).listeners.entries
  lists :
      ∀ id,
        (after.list id).listeners.entries = (start.list id).listeners.entries
  widgets : ∀ id, id.index < start.widgets.size →
    (after.widget id).children = (start.widget id).children ∧
      (after.widget id).listeners.entries = (start.widget id).listeners.entries
  topControllers : after.topControllers = start.topControllers

theorem AddsLoops.later {pending : List Subscription} {id : BlockId}
    (loops : AddsLoops start pending world) (tidy : start.Tidy)
    {list : ListId} {number : Nat}
    (member :
      (number, ListListener.block id) ∈ (world.list list).listeners.entries)
    (new : start.blocks.size ≤ id.index) :
    (start.list list).listeners.next ≤ number := by
  refine Nat.not_lt.mp fun earlier => ?_
  have old := (loops.lists list).mem member earlier
  exact absurd (tidy.listening list number id old) (Nat.not_lt.mpr new)

/-- The new documents have ended, nothing is left unowned, and no operation
keeps anything new. -/
structure Deserted (start world : World σ) : Prop where
  swept : world.Swept
  pins : world.pins = start.pins
  ended : ∀ id : HandleId, start.handles.size ≤ id.index → world.Ended id

section Deserted

variable (tidy : start.Tidy) (additions : Additions host start [] world)
  (deserted : Deserted start world)

include tidy additions deserted

/-- A new item that is live belongs to a new loop that is live. -/
theorem Deserted.outer {item : ItemId} (new : start.items.size ≤ item.index)
    (live : (world.item item).live = true) :
    ∃ outer block,
      start.blocks.size ≤ outer.index ∧ world.block? outer = some block ∧
      block.live = true ∧ item ∈ block.items := by
  rcases ownsItem_cases (deserted.swept.items item live)
    with pinned | ⟨outer, block, found, owner, member⟩
  · rw [deserted.pins] at pinned
    exact absurd ((tidy.pins _ pinned).2 item rfl) (Nat.not_lt.mpr new)
  · refine ⟨outer, block, Nat.not_lt.mp fun old => ?_, found, owner, member⟩
    rw [additions.items.oldBlocks outer old] at found
    exact absurd (tidy.items outer block found item member) (Nat.not_lt.mpr new)

/-- No new loop is live: it would belong to an item of an earlier one. -/
theorem Deserted.blocks (index : Nat) : start.blocks.size ≤ index →
    ∀ block, world.block? ⟨index⟩ = some block → block.live = false := by
  induction index using Nat.strongRecOn with
  | ind index hypothesis =>
    intro new block found
    refine Bool.eq_false_iff.mpr fun live => ?_
    have inItem : ∀ item,
        start.items.size ≤ item.index → (world.item item).live = true →
        world.Contains item ⟨index⟩ → False := by
      intro item newItem liveItem contains
      obtain ⟨outer, outerBlock, newOuter, foundOuter, liveOuter, member⟩ :=
        deserted.outer tidy additions newItem liveItem
      have earlier :=
        additions.items.climbs outer outerBlock newOuter foundOuter item
          member _ contains
      rw [hypothesis outer.index earlier newOuter outerBlock foundOuter]
        at liveOuter
      cases liveOuter
    rcases ownsBlock_cases (deserted.swept.blocks _ block found live) with
      pinned | ⟨list, number, listens⟩ | ⟨item, liveItem, nested⟩
    · rw [deserted.pins] at pinned
      exact absurd ((tidy.pins _ pinned).1 _ rfl) (Nat.not_lt.mpr new)
    · have later := additions.loops.later tidy listens new
      rcases (additions.loops.loops list _ listens later).2
        with none | ⟨keeper, newKeeper, recorded⟩
      · cases none
      · cases keeper with
        | handle id =>
          rw [kept, (deserted.ended id newKeeper).subscriptions] at recorded
          cases recorded
        | item item =>
          refine inItem item newKeeper (Bool.not_eq_false _ ▸ fun dead => ?_)
            (.inr ⟨list, number, recorded, listens⟩)
          rw [kept, (additions.items.items item newKeeper).2.2 dead] at recorded
          cases recorded
    · have newItem : start.items.size ≤ item.index := by
        refine Nat.not_lt.mp fun old => ?_
        rw [additions.items.oldItems item old] at nested
        exact absurd (tidy.nested item _ nested) (Nat.not_lt.mpr new)
      exact inItem item newItem liveItem (.inl nested)

theorem Deserted.items {item : ItemId} (new : start.items.size ≤ item.index) :
    (world.item item).live = false := by
  refine Bool.eq_false_iff.mpr fun live => ?_
  obtain ⟨outer, block, newOuter, found, liveOuter, _⟩ :=
    deserted.outer tidy additions new live
  rw [deserted.blocks tidy additions outer.index newOuter block found] at liveOuter
  cases liveOuter

/-- Nobody new keeps a record. -/
theorem Deserted.kept {keeper : SubscriptionKeeper} (new : NewKeeper start keeper) :
    world.kept keeper = [] := by
  cases keeper with
  | handle id => exact (deserted.ended id new).subscriptions
  | item id =>
    exact (additions.items.items id new).2.2 (deserted.items tidy additions new)

theorem Deserted.unaccounted {record : Subscription} :
    ¬ Accounted start world [] record := by
  rintro (none | ⟨keeper, new, member⟩)
  · cases none
  · rw [deserted.kept tidy additions new] at member
    cases member

/-- What is old looks as it did. -/
theorem Deserted.untouched (tops : world.topControllers = start.topControllers) :
    Untouched start world := by
  have posts : ∀ post,
      (world.listenersAt post).entries = (start.listenersAt post).entries := by
    refine fun post => (additions.listeners.posts post).eq fun entry member =>
      Nat.not_le.mp fun later => ?_
    obtain ⟨id, binding, object, _, _, _, new, found, recorded, _⟩ :=
      additions.listeners.heard post entry member later
    exact deserted.unaccounted tidy additions
      (additions.listeners.accounted id binding new found
        (List.ne_nil_of_mem recorded))
  refine ⟨fun id => posts (.inl id), fun id => ?_,
    fun id old => ⟨?_, posts (.inr id)⟩, tops⟩
  · refine (additions.loops.lists id).eq fun entry member =>
      Nat.not_le.mp fun later => ?_
    exact deserted.unaccounted tidy additions
      (additions.loops.loops id entry member later).2
  · rw [← additions.widgets.children id old]
    refine (List.filter_eq_self.mpr fun child member => ?_).symm
    refine decide_eq_true (Nat.not_le.mp fun new => ?_)
    obtain ⟨_, _, handle, newHandle, root⟩ :=
      additions.widgets.attached id old child member new
    rw [(deserted.ended handle newHandle).root] at root
    cases root

end Deserted

end World

end LiveMarkup
