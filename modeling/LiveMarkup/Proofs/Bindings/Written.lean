import LiveMarkup.Proofs.Bindings.Applying
import LiveMarkup.Proofs.Trees.Operations

/-!
# What a write leaves behind

A write changes the property it is asked to change and announces it once, or it
fails and changes nothing.  There are two exceptions.  Label settings keep the
entries before the one that failed, and new rows drop a selection that lies
beyond the last of them; neither is announced.

`WidgetId.write_failed` and `WidgetId.write_succeeded` say this of all
properties of all classes.  They are what is known of a widget after a write,
without a look at the property that was written.
-/

namespace LiveMarkup

variable {σ : Type} {deliver : Deliver σ} {widget : WidgetId} {name : String}
  {value : Value}
  {world after : World σ}

/-- New rows leave all other properties as they are, except for a selection that
is dropped. -/
theorem World.assignField_rows (world : World σ) (fields : List (String × Field))
    {property : PropertySpec} (value : Value) {selection other : String}
    (kind : property.kind = .rows selection) (apart : other ≠ property.name) :
    (world.assignField fields property value).1.lookup other = fields.lookup other ∨
      other = selection ∧ (world.assignField fields property value).1.lookup other =
        some (.value (.int (-1))) := by
  obtain ⟨spelled, _⟩ := property
  subst kind
  unfold assignField
  dsimp only
  cases world.toRows value with
  | error error => exact .inl rfl
  | ok texts =>
    dsimp only
    have rows : (putEntry spelled (.rows texts) fields).lookup other =
          fields.lookup other := by
      rw [lookup_putEntry, if_neg apart]
    split
    · rw [lookup_putEntry]
      split
      · next dropped => exact .inr ⟨dropped, rfl⟩
      · exact .inl rows
    · exact .inl rows

/-- Label settings are written as a whole, as far as they go. -/
theorem World.assignField_settings (world : World σ)
    (fields : List (String × Field)) {property : PropertySpec} (value : Value)
    (kind : property.kind = .labelSettings) (error : UiError)
    (failed : (world.assignField fields property value).2 = .error error) :
    (world.assignField fields property value).1 = fields ∨
    ∃ settings,
      (world.assignField fields property value).1 =
        putEntry property.name (.settings (some settings)) fields := by
  obtain ⟨spelled, _⟩ := property
  subst kind
  unfold assignField at failed ⊢
  cases value with
  | null => cases failed
  | map entries => exact .inr ⟨_, rfl⟩
  | _ => exact .inl rfl

/-- To give a widget the content that it has changes nothing. -/
theorem World.updateWidget_fields (world : World σ) (widget : WidgetId) :
    world.updateWidget widget
      ({ · with fields := (world.widget widget).fields }) = world := by
  refine updateWidget_eq_self fun old found => ?_
  rw [World.widget, found]
  rfl

/-- A write that fails announces nothing.  It leaves everything as it was,
unless settings of a label were to be written. -/
theorem WidgetId.write_failed {error : UiError}
    (failed : (widget.write deliver name value).run world = (.error error, after)) :
    after = world ∨ ∃ property settings, (world.widget widget).cls.property?
    name = some property ∧
      property.kind = .labelSettings ∧ after = world.updateWidget widget ({ · with
        fields := putEntry property.name (.settings (some settings))
          (world.widget widget).fields }) := by
  rw [WidgetId.write_run] at failed
  cases found : (world.widget widget).cls.property? name with
  | none =>
    simp only [found] at failed
    exact .inl (Prod.mk.inj failed).2.symm
  | some property =>
    simp only [found] at failed
    have assigned :=
      world.assignField_assigns 0 (world.widget widget).fields property value
    have settings :=
      @World.assignField_settings σ world (world.widget widget).fields
        property value
    rcases result : world.assignField (world.widget widget).fields property
      value with ⟨fields, outcome⟩
    rw [result] at failed assigned settings
    cases outcome with
    | ok => cases failed
    | error other =>
      cases failed
      by_cases kind : property.kind = .labelSettings
      · rcases settings kind error rfl with same | ⟨kept, same⟩
        · cases same
          exact .inl (world.updateWidget_fields widget)
        · cases same
          exact .inr ⟨property, kept, rfl, kind, rfl⟩
      · have same := assigned.failed kind error rfl
        cases same
        exact .inl (world.updateWidget_fields widget)

/-- A write that succeeds announces its property once, after it was changed. The
others are as they were, except for a selection that new rows have dropped. -/
theorem WidgetId.write_succeeded
    (succeeded : (widget.write deliver name value).run world = (.ok (), after)) :
    ∃ property fields,
      (world.widget widget).cls.property? name = some property ∧
      after =
        (ObjectId.notify deliver (.widget widget) property.name
          (world.updateWidget widget ({ · with fields }))).2 ∧
      ∀ other,
        other ≠ property.name →
          fields.lookup other = (world.widget widget).fields.lookup other ∨
          property.kind = .rows other ∧
          fields.lookup other = some (.value (.int (-1))) := by
  rw [WidgetId.write_run] at succeeded
  cases found : (world.widget widget).cls.property? name with
  | none =>
    simp only [found] at succeeded
    cases succeeded
  | some property =>
    simp only [found] at succeeded
    have assigned :=
      world.assignField_assigns 0 (world.widget widget).fields property value
    rcases result : world.assignField (world.widget widget).fields property
      value with ⟨fields, outcome⟩
    rw [result] at succeeded assigned
    cases outcome with
    | error error => cases succeeded
    | ok =>
      cases succeeded
      refine ⟨property, fields, rfl, rfl, fun other apart => ?_⟩
      cases kind : property.kind with
      | rows selection =>
        have rows :=
          world.assignField_rows (world.widget widget).fields value kind apart
        rw [result] at rows
        rcases rows with same | ⟨rfl, dropped⟩
        · exact .inl same
        · exact .inr ⟨rfl, dropped⟩
      | _ => exact .inl (assigned.others (fun _ => by rw [kind]; nofun) other apart)

end LiveMarkup
