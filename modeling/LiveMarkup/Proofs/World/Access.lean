import LiveMarkup.World.Subscriptions
import LiveMarkup.Proofs.World.Actions

/-!
# What a changed world holds

Reading the world after one of its entries was changed or a new one was added.
The listeners of an object's changes stand at a post: a bag, or a widget.
-/

namespace LiveMarkup

namespace Store

variable {α : Type}

theorem getD_update (store : Store α) (index other : Nat) (change : α → α)
    (fallback : α) :
    ((store.update index change).get? other).getD fallback =
      if index = other ∧ index < store.size then
        change ((store.get? other).getD fallback)
      else (store.get? other).getD fallback := by
  rw [get?_update]
  by_cases same : index = other
  · subst same
    by_cases old : index < store.size
    · have present : store.get? index = some store.entries[index] :=
        Array.getElem?_eq_getElem old
      simp [present, old]
    · have absent : store.get? index = none := by
        simpa [get?, size] using old
      simp [absent, old]
  · simp [same]

theorem get?_add (store : Store α) (entry : α) (index : Nat) :
    (store.add entry).get? index =
      if index = store.size then some entry else store.get? index := by
  simp only [get?, add, size, Array.getElem?_push]
  rfl

theorem getD_add_of_lt {store : Store α} {entry fallback : α} {index : Nat}
    (old : index < store.size) :
    ((store.add entry).get? index).getD fallback =
      (store.get? index).getD fallback := by
  rw [get?_add_of_lt old]

theorem lt_size_of_get? {store : Store α} {index : Nat} {entry : α}
    (found : store.get? index = some entry) : index < store.size := by
  have inside := Array.getElem?_eq_some_iff.mp found
  exact inside.1

theorem get?_of_not_lt {store : Store α} {index : Nat}
    (absent : ¬ index < store.size) : store.get? index = none := by
  simpa [get?, size] using absent

theorem get?_of_lt {store : Store α} {index : Nat} (old : index < store.size) :
    ∃ entry, store.get? index = some entry :=
  ⟨store.entries[index], Array.getElem?_eq_getElem old⟩

end Store

namespace World

variable {σ : Type}

theorem bag_updateBag (world : World σ) (id other : BagId) (change : Bag → Bag) :
    (world.updateBag id change).bag other =
      if id = other ∧ id.index < world.bags.size then change (world.bag other)
      else world.bag other := by
  have same : id = other ↔ id.index = other.index := by
    cases id; cases other; simp
  simp only [bag, updateBag, Store.getD_update, same]

theorem list_updateList (world : World σ) (id other : ListId)
    (change : ObservableList → ObservableList) :
    (world.updateList id change).list other =
      if id = other ∧ id.index < world.lists.size then change (world.list other)
      else world.list other := by
  have same : id = other ↔ id.index = other.index := by
    cases id; cases other; simp
  simp only [list, updateList, Store.getD_update, same]

theorem widget_updateWidget (world : World σ) (id other : WidgetId)
    (change : Widget → Widget) :
    (world.updateWidget id change).widget other =
      if id = other ∧ id.index < world.widgets.size then
        change (world.widget other)
      else world.widget other := by
  have same : id = other ↔ id.index = other.index := by
    cases id; cases other; simp
  simp only [widget, updateWidget, Store.getD_update, same]

theorem handle_updateHandle (world : World σ) (id other : HandleId)
    (change : Handle → Handle) :
    (world.updateHandle id change).handle other =
      if id = other ∧ id.index < world.handles.size then
        change (world.handle other)
      else world.handle other := by
  have same : id = other ↔ id.index = other.index := by
    cases id; cases other; simp
  simp only [handle, updateHandle, Store.getD_update, same]

theorem item_updateItem (world : World σ) (id other : ItemId)
    (change : Item → Item) :
    (world.updateItem id change).item other =
      if id = other ∧ id.index < world.items.size then change (world.item other)
      else world.item other := by
  have same : id = other ↔ id.index = other.index := by
    cases id; cases other; simp
  simp only [item, updateItem, Store.getD_update, same]

theorem binding?_updateBinding (world : World σ) (id other : BindingId)
    (change : LiveBinding → LiveBinding) :
    (world.updateBinding id change).binding? other =
      if id = other then (world.binding? other).map change
      else world.binding? other := by
  have same : id = other ↔ id.index = other.index := by
    cases id; cases other; simp
  simp only [binding?, updateBinding, Store.get?_update, same]

theorem block?_updateBlock (world : World σ) (id other : BlockId)
    (change : Block → Block) :
    (world.updateBlock id change).block? other =
      if id = other then (world.block? other).map change
      else world.block? other := by
  have same : id = other ↔ id.index = other.index := by
    cases id; cases other; simp
  simp only [block?, updateBlock, Store.get?_update, same]

theorem bag_project (world : World σ) (id other : BagId) (change : Bag → Bag)
    {β : Type} (project : Bag → β)
    (keeps : ∀ bag, project (change bag) = project bag) :
    project ((world.updateBag id change).bag other) =
      project (world.bag other) := by
  rw [bag_updateBag]
  split
  · exact keeps _
  · rfl

theorem widget_project (world : World σ) (id other : WidgetId)
    (change : Widget → Widget) {β : Type} (project : Widget → β)
    (keeps : ∀ widget, project (change widget) = project widget) :
    project ((world.updateWidget id change).widget other) =
      project (world.widget other) := by
  rw [widget_updateWidget]
  split
  · exact keeps _
  · rfl

theorem handle_project (world : World σ) (id other : HandleId)
    (change : Handle → Handle) {β : Type} (project : Handle → β)
    (keeps : ∀ handle, project (change handle) = project handle) :
    project ((world.updateHandle id change).handle other) =
      project (world.handle other) := by
  rw [handle_updateHandle]
  split
  · exact keeps _
  · rfl

/-- What a document lists after the change it listed before, or it is the one that
has changed. -/
theorem mem_updateHandle {world : World σ} {id other : HandleId}
    {change : Handle → Handle} {α : Type} {entry : α} (part : Handle → List α)
    (member : entry ∈ part ((world.updateHandle id change).handle other)) :
    entry ∈ part (world.handle other) ∨
      (other = id ∧ entry ∈ part (change (world.handle id))) := by
  rw [handle_updateHandle] at member
  split at member
  case isTrue here =>
    obtain ⟨rfl, _⟩ := here
    exact .inr ⟨rfl, member⟩
  case isFalse => exact .inl member

theorem widget_newWidget (world : World σ) (cls : WidgetClass) (id : WidgetId) :
    (world.newWidget cls).2.widget id =
      if id.index = world.widgets.size then .ofClass cls else world.widget id := by
  simp only [newWidget, widget, Store.get?_add]
  split <;> rfl

theorem widget_of_not_lt {world : World σ} {id : WidgetId}
    (absent : ¬ id.index < world.widgets.size) : world.widget id = default := by
  simp only [widget, Store.get?_of_not_lt absent]
  rfl

/-! ### Posts -/

/-- The listeners at a post. -/
def listenersAt (world : World σ) : BagId ⊕ WidgetId → Listeners PropertyListener
  | .inl id => (world.bag id).listeners
  | .inr id => (world.widget id).listeners

/-- Change the listeners at a post. -/
def updateListenersAt (world : World σ) (post : BagId ⊕ WidgetId)
    (change : Listeners PropertyListener → Listeners PropertyListener) : World σ :=
  match post with
  | .inl id =>
    world.updateBag id fun old => { old with listeners := change old.listeners }
  | .inr id =>
    world.updateWidget id fun old =>
      { old with listeners := change old.listeners }

/-- Whether there is a post. -/
def HasPost (world : World σ) : BagId ⊕ WidgetId → Prop
  | .inl id => id.index < world.bags.size
  | .inr id => id.index < world.widgets.size

theorem propertyListeners_eq (world : World σ) (object : ObjectId) :
    world.propertyListeners object =
      world.listenersAt (world.announcer object) := by
  unfold propertyListeners listenersAt
  cases world.announcer object <;> rfl

theorem updatePropertyListeners_eq (world : World σ) (object : ObjectId)
    (change : Listeners PropertyListener → Listeners PropertyListener) :
    world.updatePropertyListeners object change =
      world.updateListenersAt (world.announcer object) change := by
  unfold updatePropertyListeners updateListenersAt
  cases world.announcer object <;> rfl

theorem listenersAt_updateListenersAt_self {world : World σ}
    {post : BagId ⊕ WidgetId} (present : world.HasPost post)
    (change : Listeners PropertyListener → Listeners PropertyListener) :
    (world.updateListenersAt post change).listenersAt post =
      change (world.listenersAt post) := by
  cases post with
  | inl id =>
    have inside : id.index < world.bags.size := present
    simp [updateListenersAt, listenersAt, bag_updateBag, inside]
  | inr id =>
    have inside : id.index < world.widgets.size := present
    simp [updateListenersAt, listenersAt, widget_updateWidget, inside]

theorem listenersAt_updateListenersAt_of_ne {world : World σ}
    {post other : BagId ⊕ WidgetId} (different : post ≠ other)
    (change : Listeners PropertyListener → Listeners PropertyListener) :
    (world.updateListenersAt post change).listenersAt other =
      world.listenersAt other := by
  cases post with
  | inl id =>
    cases other with
    | inl other =>
      have apart : id ≠ other := fun same => different (same ▸ rfl)
      simp [updateListenersAt, listenersAt, bag_updateBag, apart]
    | inr other => rfl
  | inr id =>
    cases other with
    | inl other => rfl
    | inr other =>
      have apart : id ≠ other := fun same => different (same ▸ rfl)
      simp [updateListenersAt, listenersAt, widget_updateWidget, apart]

theorem listenersAt_updateListenersAt_of_not {world : World σ}
    {post : BagId ⊕ WidgetId} (absent : ¬ world.HasPost post)
    (other : BagId ⊕ WidgetId)
    (change : Listeners PropertyListener → Listeners PropertyListener) :
    (world.updateListenersAt post change).listenersAt other =
      world.listenersAt other := by
  cases post with
  | inl id =>
    have outside : ¬ id.index < world.bags.size := absent
    cases other with
    | inl other => simp [updateListenersAt, listenersAt, bag_updateBag, outside]
    | inr other => rfl
  | inr id =>
    have outside : ¬ id.index < world.widgets.size := absent
    cases other with
    | inl other => rfl
    | inr other =>
      simp [updateListenersAt, listenersAt, widget_updateWidget, outside]

end World

end LiveMarkup
