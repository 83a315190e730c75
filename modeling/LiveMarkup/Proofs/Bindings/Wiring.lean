import LiveMarkup.Proofs.World.Reading

/-!
# How live properties are wired

A live property keeps a record of every registration it has made, and a document
or a loop item keeps a record of the live property.  The registrations are told
apart by numbers that are used once at each post, so that undoing the records of
one live property leaves the listeners of all others in place.
-/

namespace LiveMarkup

/-! ## Listeners -/

namespace Listeners

variable {α : Type}

/-- The numbers of the listeners differ, and the next number has not been used. -/
structure Ordered (listeners : Listeners α) : Prop where
  below : ∀ entry ∈ listeners.entries, entry.1 < listeners.next
  distinct : (listeners.entries.map Prod.fst).Nodup

/-- A new listener gets a number above all others. -/
theorem Ordered.subscribe {listeners : Listeners α} (ordered : listeners.Ordered)
    (listener : α) : (listeners.subscribe listener).Ordered where
  below entry member := by
    rcases List.mem_append.mp member with old | new
    · exact Nat.lt_succ_of_lt (ordered.below entry old)
    · rw [List.mem_singleton.mp new]
      exact Nat.lt_succ_self _
  distinct := by
    simp only [Listeners.subscribe, List.map_append, List.map_cons, List.map_nil]
    refine List.nodup_append.mpr ⟨ordered.distinct, by simp, ?_⟩
    intro number old other new
    obtain ⟨entry, member, rfl⟩ := List.mem_map.mp old
    have last : other = listeners.next := by simpa using new
    have earlier := ordered.below entry member
    omega

theorem Ordered.unsubscribe {listeners : Listeners α} (ordered : listeners.Ordered)
    (number : Nat) : (listeners.unsubscribe number).Ordered where
  below entry member := ordered.below entry (List.mem_of_mem_eraseP member)
  distinct := ordered.distinct.sublist ((List.eraseP_sublist ..).map Prod.fst)

/-- Only listeners of the number that is removed go. -/
theorem mem_unsubscribe {listeners : Listeners α} {number : Nat} {entry : Nat × α}
    (member : entry ∈ listeners.entries) (other : entry.1 ≠ number) :
    entry ∈ (listeners.unsubscribe number).entries := by
  rw [Listeners.unsubscribe, List.mem_eraseP_of_neg]
  · exact member
  · simpa using other

end Listeners

namespace World

variable {σ : Type}

/-- The records that a document or a loop item keeps. -/
def kept (world : World σ) : SubscriptionKeeper → List Subscription
  | .handle id => (world.handle id).subscriptions
  | .item id => (world.item id).subscriptions

/-- A live property is live as long as its document or loop item keeps the
record of it. -/
def Recorded (world : World σ) (id : BindingId) : Prop :=
  ∃ keeper, .binding id ∈ world.kept keeper

/-- A record of a registration that a live property has made. -/
def Belongs (world : World σ) (id : BindingId) (record : Subscription) : Prop :=
  ∃ object number, record = .object object number ∧ world.Has object ∧
    number < (world.listenersAt (world.announcer object)).next ∧
    ∀ listener, (number, listener) ∈
    (world.listenersAt (world.announcer object)).entries →
    ∃ generation property, listener = .binding id generation property

/-- Listeners and records fit together. -/
structure Wired (world : World σ) : Prop where
  ordered : ∀ post, (world.listenersAt post).Ordered
  /-- A listener of the current evaluation stands for something that this
  evaluation has read. -/
  heard : ∀ post number id generation property,
      (number, PropertyListener.binding id generation property) ∈
        (world.listenersAt post).entries →
      ∃ binding,
        world.binding? id = some binding ∧ generation ≤ binding.generation ∧
        (generation = binding.generation →
         ∃ object,
           world.announcer object = post ∧ (object, property) ∈ binding.watched)
  records : ∀ id binding, world.binding? id = some binding →
    ∀ record ∈ binding.subscriptions, world.Belongs id record
  watched : ∀ id binding, world.binding? id = some binding →
    ∀ slot ∈ binding.watched, world.Has slot.1 ∧ slot ∈ binding.everWatched
  keepers : ∀ keeper, ∀ record ∈ world.kept keeper,
      (∃ list number, record = .list list number) ∨
      ∃ id : BindingId, record = .binding id ∧ id.index < world.bindings.size
  single : ∀ id keeper other,
      .binding id ∈ world.kept keeper → .binding id ∈ world.kept other →
      keeper = other

/-- A live property listens to everything that its current evaluation has read. -/
def Covered (world : World σ) (id : BindingId) : Prop :=
  ∀ binding, world.binding? id = some binding → ∀ slot ∈ binding.watched,
    ∃ number, (number, PropertyListener.binding id binding.generation slot.2)
      ∈ (world.listenersAt (world.announcer slot.1)).entries

/-! ## Content -/

/-- Bags and widgets differ in their listeners at most. -/
structure SameContent (world other : World σ) : Prop where
  bagCount : other.bags.size = world.bags.size
  widgetCount : other.widgets.size = world.widgets.size
  bags : ∀ id,
      other.bag id = { world.bag id with listeners := (other.bag id).listeners }
  widgets : ∀ id,
      other.widget id =
        { world.widget id with listeners := (other.widget id).listeners }

theorem SameContent.refl (world : World σ) : world.SameContent world :=
  ⟨rfl, rfl, fun _ => rfl, fun _ => rfl⟩

theorem SameContent.trans {first second third : World σ}
    (left : first.SameContent second) (right : second.SameContent third) :
    first.SameContent third where
  bagCount := right.bagCount.trans left.bagCount
  widgetCount := right.widgetCount.trans left.widgetCount
  bags id := by rw [right.bags id, left.bags id]
  widgets id := by rw [right.widgets id, left.widgets id]

/-- Listeners are no content of the world. -/
theorem sameContent_updateListenersAt (world : World σ) (post : BagId ⊕ WidgetId)
    (change : Listeners PropertyListener → Listeners PropertyListener) :
    world.SameContent (world.updateListenersAt post change) := by
  cases post with
  | inl post =>
    refine ⟨Store.size_update .., rfl, fun id => ?_, fun _ => rfl⟩
    simp only [updateListenersAt, bag_updateBag]
    split <;> rfl
  | inr post =>
    refine ⟨rfl, Store.size_update .., fun _ => rfl, fun id => ?_⟩
    simp only [updateListenersAt, widget_updateWidget]
    split <;> rfl

variable {world other : World σ}

theorem SameContent.values (same : world.SameContent other) (id : BagId) :
    (other.bag id).values = (world.bag id).values := by
  rw [same.bags id]

theorem SameContent.typeName (same : world.SameContent other) (id : BagId) :
    (other.bag id).typeName = (world.bag id).typeName := by
  rw [same.bags id]

theorem SameContent.cls (same : world.SameContent other) (id : WidgetId) :
    (other.widget id).cls = (world.widget id).cls := by
  rw [same.widgets id]

theorem SameContent.fields (same : world.SameContent other) (id : WidgetId) :
    (other.widget id).fields = (world.widget id).fields := by
  rw [same.widgets id]

theorem SameContent.children (same : world.SameContent other) (id : WidgetId) :
    (other.widget id).children = (world.widget id).children := by
  rw [same.widgets id]

/-- A slot shows the same in worlds of the same content. -/
theorem SameContent.sees (same : world.SameContent other)
    (handles : other.handles = world.handles) (slot : ObjectId × String) :
    other.sees slot = world.sees slot := by
  obtain ⟨object, name⟩ := slot
  cases object with
  | bag id => simp only [World.sees, BagId.get?, same.values]
  | widget id => simp only [World.sees, same.cls, same.fields]
  | handle id =>
    simp only [World.sees, BagId.get?, same.values, World.handle, handles]

end World

end LiveMarkup
