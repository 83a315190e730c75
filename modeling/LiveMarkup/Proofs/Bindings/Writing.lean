import LiveMarkup.Proofs.World.Fields
import LiveMarkup.Proofs.Bindings.Evaluating
import LiveMarkup.Proofs.Bindings.Furnishing

/-!
# Changing widgets and bags

A widget or a bag is changed in its content alone: its listeners stay, and so
does its class or type.
-/

namespace LiveMarkup.World

variable {σ : Type} {world after : World σ}

/-! ## Widgets -/

/-- A change of a widget that keeps its class and its listeners, and names only
what there is. -/
structure WritesWidget (world : World σ) (id : WidgetId)
    (change : Widget → Widget) : Prop where
  cls : ∀ old, (change old).cls = old.cls
  listeners : ∀ old, (change old).listeners = old.listeners
  known : world.Sound world.loaded →
    ∀ entry ∈ (change (world.widget id)).fields, entry.2.Known world world.loaded
  rows : world.Sound world.loaded →
      ∀ entry ∈ (change (world.widget id)).fields, ∀ texts,
        entry.2 = .rows texts →
        ∃ property ∈ (world.widget id).cls.properties, ∃ selection,
          property.kind = .rows selection

theorem listenersAt_updateWidget (id : WidgetId) {change : Widget → Widget}
    (keeps : ∀ old, (change old).listeners = old.listeners)
    (post : BagId ⊕ WidgetId) :
    (world.updateWidget id change).listenersAt post =
      world.listenersAt post := by
  cases post with
  | inl bag => rfl
  | inr other => exact widget_project world id other change Widget.listeners keeps

theorem fits_updateWidget (world : World σ) (id : WidgetId)
    (change : Widget → Widget) :
    Value.Fits world (world.updateWidget id change) :=
  ⟨Nat.le_refl _, Nat.le_refl _, Nat.le_of_eq (Store.size_update ..).symm,
    Nat.le_refl _⟩

/-- Writing to a widget as it may be written alters no live property. -/
theorem WritesWidget.alters {id : WidgetId} {change : Widget → Widget}
    (writes : WritesWidget world id change) :
    Alters world (world.updateWidget id change) := by
  have cls : ∀ other : WidgetId,
      ((world.updateWidget id change).widget other).cls =
        (world.widget other).cls :=
    fun other => widget_project world id other change Widget.cls writes.cls
  have fits := fits_updateWidget world id change
  refine {
    agrees := .of_same (fun _ _ => rfl) (fun _ _ => rfl) (fun other _ => cls other)
      fun _ _ => rfl
    fits
    loaded := rfl
    bindings := rfl
    sound := fun sound =>
      sound.extend { fits, fields := fun other entry member => ?_ }
    listeners := listenersAt_updateWidget id writes.listeners
    kept := fun keeper _ member => .inl (by cases keeper <;> exact member)
    plain := fun slot _ plain => ?_ }
  · rw [cls]
    rw [widget_updateWidget] at member
    split at member
    case isTrue here =>
      obtain ⟨rfl, _⟩ := here
      refine .inr ?_
      exact ⟨Field.Known.mono fits (Nat.le_refl _)
        (writes.known sound entry member), writes.rows sound entry member⟩
    case isFalse => exact .inl ⟨member, rfl⟩
  · obtain ⟨object, name⟩ := slot
    cases object with
    | bag => trivial
    | widget other => simpa only [Plain, cls] using plain
    | handle => exact plain

/-- A change of a widget that leaves class, listeners and fields alone writes
nothing. -/
theorem writesWidget_sameFields (id : WidgetId) {change : Widget → Widget}
    (cls : ∀ old, (change old).cls = old.cls)
    (listeners : ∀ old, (change old).listeners = old.listeners)
    (fields : ∀ old, (change old).fields = old.fields) :
    WritesWidget world id change where
  cls
  listeners
  known sound := by
    rw [fields]
    exact sound.fields id
  rows sound := by
    rw [fields]
    exact sound.rows id

/-- It moves no widget if it leaves the links alone. -/
theorem stays_updateWidget {id : WidgetId} {change : Widget → Widget}
    (writes : WritesWidget world id change)
    (children : ∀ old, (change old).children = old.children)
    (parent : ∀ old, (change old).parent = old.parent) :
    world.Stays (world.updateWidget id change) where
  later := writes.alters.later
  handles := rfl
  held := rfl
  widgetCount := Store.size_update ..
  bindingCount := rfl
  children other := widget_project world id other change Widget.children children
  parent other := widget_project world id other change Widget.parent parent

/-- A slot shows the same if class and fields do. -/
theorem sees_updateWidget (id : WidgetId) {change : Widget → Widget}
    (cls : ∀ old, (change old).cls = old.cls)
    (fields : ∀ old, (change old).fields = old.fields)
    (slot : ObjectId × String) :
    (world.updateWidget id change).sees slot = world.sees slot := by
  obtain ⟨object, name⟩ := slot
  cases object with
  | bag => rfl
  | handle => rfl
  | widget other =>
    simp only [sees, widget_project world id other change Widget.cls cls,
      widget_project world id other change Widget.fields fields]

/-! ## Bags -/

/-- A change of a bag that keeps its type and its listeners, and names only what
there is. -/
structure WritesBag (world : World σ) (id : BagId) (change : Bag → Bag) : Prop where
  typeName : ∀ old, (change old).typeName = old.typeName
  listeners : ∀ old, (change old).listeners = old.listeners
  known : world.Sound world.loaded →
    Value.EntriesKnown world world.loaded (change (world.bag id)).values

theorem listenersAt_updateBag (id : BagId) {change : Bag → Bag}
    (keeps : ∀ old, (change old).listeners = old.listeners)
    (post : BagId ⊕ WidgetId) :
    (world.updateBag id change).listenersAt post = world.listenersAt post := by
  cases post with
  | inl other => exact bag_project world id other change Bag.listeners keeps
  | inr widget => rfl

theorem fits_updateBag (world : World σ) (id : BagId) (change : Bag → Bag) :
    Value.Fits world (world.updateBag id change) :=
  ⟨Nat.le_of_eq (Store.size_update ..).symm, Nat.le_refl _, Nat.le_refl _,
    Nat.le_refl _⟩

/-- Writing to a bag alters no live property. -/
theorem WritesBag.alters {id : BagId} {change : Bag → Bag}
    (writes : WritesBag world id change) :
    Alters world (world.updateBag id change) := by
  have fits := fits_updateBag world id change
  have typeName : ∀ other : BagId,
      ((world.updateBag id change).bag other).typeName =
        (world.bag other).typeName :=
    fun other => bag_project world id other change Bag.typeName writes.typeName
  refine {
    agrees := .of_same (fun other _ => typeName other) (fun _ _ => rfl)
      (fun _ _ => rfl) fun _ _ => rfl
    fits
    loaded := rfl
    bindings := rfl
    sound := fun sound =>
      sound.extend { fits, values := fun other entry member => ?_ }
    listeners := listenersAt_updateBag id writes.listeners
    kept := fun keeper _ member => .inl (by cases keeper <;> exact member)
    plain := fun slot _ plain => ?_ }
  · rw [bag_updateBag] at member
    split at member
    case isTrue here =>
      obtain ⟨rfl, _⟩ := here
      have known := (Value.entriesKnown_iff ..).mp (writes.known sound) entry member
      exact .inr (Value.Known.mono fits (Nat.le_refl _) _ known)
    case isFalse => exact .inl member
  · obtain ⟨object, name⟩ := slot
    cases object <;> exact plain

/-- Nor does it move a widget. -/
theorem stays_updateBag {id : BagId} {change : Bag → Bag}
    (writes : WritesBag world id change) :
    world.Stays (world.updateBag id change) where
  later := writes.alters.later
  handles := rfl
  held := rfl
  widgetCount := rfl
  bindingCount := rfl
  children _ := rfl
  parent _ := rfl

end LiveMarkup.World
