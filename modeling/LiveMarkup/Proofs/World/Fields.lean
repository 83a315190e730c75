import LiveMarkup.Widget.Operations
import LiveMarkup.Proofs.Text.SnakeCase
import LiveMarkup.Proofs.World.Reading
import LiveMarkup.Proofs.World.Actions

/-!
# Writing properties

What writing a property changes, and under which name the change is announced.
-/

namespace LiveMarkup

section Entries

variable {α : Type}

/-- Putting an entry changes the answer at its key and at no other. -/
theorem lookup_putEntry (key : String) (value : α)
    (entries : List (String × α)) (name : String) :
    (putEntry key value entries).lookup name =
      if name = key then some value else entries.lookup name := by
  induction entries with
  | nil =>
    by_cases same : name = key
    · simp [putEntry, same]
    · have apart : (name == key) = false := by simpa using same
      simp [putEntry, List.lookup_cons, apart, same]
  | cons entry rest hypothesis =>
    obtain ⟨other, old⟩ := entry
    by_cases here : other = key
    · subst here
      by_cases same : name = other
      · simp [putEntry, same]
      · have apart : (name == other) = false := by simpa using same
        simp [putEntry, List.lookup_cons, apart, same]
    · have elsewhere : (other == key) = false := by simpa using here
      by_cases same : name = other
      · subst same
        simp [putEntry, here]
      · have apart : (name == other) = false := by simpa using same
        simp [putEntry, List.lookup_cons, elsewhere, apart, hypothesis]

/-- An entry after the change is an old one or the new one. -/
theorem mem_putEntry {key : String} {value : α} {entries : List (String × α)}
    {entry : String × α} (member : entry ∈ putEntry key value entries) :
    entry ∈ entries ∨ entry = (key, value) := by
  induction entries with
  | nil => exact .inr (List.mem_singleton.mp member)
  | cons other rest hypothesis =>
    simp only [putEntry] at member
    split at member
    case isTrue here =>
      rcases List.mem_cons.mp member with equal | old
      · have same : other.1 = key := by simpa using here
        exact .inr (by rw [equal, same])
      · exact .inl (List.mem_cons_of_mem _ old)
    case isFalse =>
      rcases List.mem_cons.mp member with equal | deeper
      · exact .inl (equal ▸ List.mem_cons_self ..)
      · rcases hypothesis deeper with old | new
        · exact .inl (List.mem_cons_of_mem _ old)
        · exact .inr new

end Entries

/-- The text that a property holds, the empty one if it holds something else. -/
def fieldText (fields : List (String × Field)) (name : String) : String :=
  match fields.lookup name with
  | some (.value (.text content)) => content
  | _ => ""

namespace WidgetClass

/-- A property is registered under the name by which it is found, or under its
underscored spelling. -/
theorem property?_spelled {cls : WidgetClass} {name : String}
    {property : PropertySpec} (found : cls.property? name = some property) :
    property.name = name ∨ property.name = Text.snakeCase name := by
  rcases Option.or_eq_some_iff.mp found with exact | ⟨_, spelled⟩
  · exact .inl (by simpa using List.find?_some exact)
  · exact .inr (by simpa using List.find?_some spelled)

/-- Whoever reads a property under any of its spellings hears of a change of it. -/
theorem property?_hears {cls : WidgetClass} {name : String}
    {property : PropertySpec} (found : cls.property? name = some property) :
    hears name property.name = true := by
  rcases property?_spelled found with same | spelled
  · simp [hears, same]
  · simp [hears, Text.sameKey, spelled, Text.snakeCase_snakeCase]

/-- A property that is found is the first one of its registered name. -/
theorem property?_first {cls : WidgetClass} {name : String}
    {property : PropertySpec} (found : cls.property? name = some property) :
    cls.properties.find? (·.name == property.name) = some property := by
  rcases Option.or_eq_some_iff.mp found with exact | ⟨_, spelled⟩
  · have same : property.name = name := by simpa using List.find?_some exact
    rwa [same]
  · have same : property.name = Text.snakeCase name := by
      simpa using List.find?_some spelled
    rwa [same]

theorem property?_unique {cls : WidgetClass} {name other : String}
    {first second : PropertySpec} (found : cls.property? name = some first)
    (foundOther : cls.property? other = some second)
    (same : first.name = second.name) : first = second := by
  have left := property?_first found
  have right := property?_first foundOther
  rw [same] at left
  exact Option.some.inj (left.symm.trans right)

end WidgetClass

namespace World

variable {σ : Type}

/-- What writing a property does to what the widget holds. -/
structure Assigns (world : World σ) (limit : Nat) (fields : List (String × Field))
    (property : PropertySpec) (value : Value)
    (result : List (String × Field) × Except UiError Unit) : Prop where
  known : value.Known world limit → (∀ entry ∈ fields, entry.2.Known world limit) →
    ∀ entry ∈ result.1, entry.2.Known world limit
  rows : ∀ entry ∈ result.1, ∀ texts, entry.2 = .rows texts →
    entry ∈ fields ∨ ∃ selection, property.kind = .rows selection
  others : (∀ selection, property.kind ≠ .rows selection) →
      ∀ name, name ≠ property.name → result.1.lookup name = fields.lookup name
  failed : property.kind ≠ .labelSettings →
      ∀ error, result.2 = .error error → result.1 = fields

/-- Keeping a value in one property. -/
theorem assigns_put {world : World σ} {limit : Nat}
    {fields : List (String × Field)} {property : PropertySpec} {value : Value}
    {field : Field} {outcome : Except UiError Unit}
    (known : value.Known world limit → field.Known world limit)
    (rows : ∀ texts, field ≠ .rows texts)
    (failed : property.kind = .labelSettings ∨ outcome = .ok ()) :
    Assigns world limit fields property value
      (putEntry property.name field fields, outcome) where
  known valueKnown all entry member := by
    rcases mem_putEntry member with old | rfl
    · exact all entry old
    · exact known valueKnown
  rows entry member texts shape := by
    rcases mem_putEntry member with old | rfl
    · exact .inl old
    · exact absurd shape (rows texts)
  others _ name different := by
    rw [lookup_putEntry, if_neg different]
  failed other error failed := by
    rcases ‹property.kind = .labelSettings ∨ outcome = .ok ()› with same | success
    · exact absurd same other
    · rw [success] at failed
      cases failed

theorem assigns_nothing {world : World σ} {limit : Nat}
    {fields : List (String × Field)} {property : PropertySpec} {value : Value}
    (error : UiError) :
    Assigns world limit fields property value (fields, .error error) := by
  refine ⟨fun _ all => all, ?_, fun _ _ _ => rfl, fun _ _ _ => rfl⟩
  intro _ member _ _
  exact .inl member

theorem assigns_keep {world : World σ} {limit : Nat}
    {fields : List (String × Field)} {property : PropertySpec} {value : Value}
    {content : Except UiError Value}
    (known :
      ∀ kept,
        content = .ok kept → value.Known world limit → kept.Known world limit) :
    Assigns world limit fields property value
      (keep fields property.name content) := by
  cases content with
  | error error => exact assigns_nothing error
  | ok kept => exact assigns_put (known kept rfl) nofun (.inr rfl)

/-- What a conversion gives, if it gives anything, is known. -/
theorem known_of_map {world : World σ} {limit : Nat} {α : Type}
    {outcome : Except UiError α} {embed : α → Value} {kept : Value}
    (gave : outcome.map embed = .ok kept)
    (scalar : ∀ content, (embed content).IsScalar) :
    kept.Known world limit := by
  cases outcome with
  | error => cases gave
  | ok content =>
    cases gave
    exact (scalar content).known world limit

/-- Writing a property changes that property alone, unless it holds rows; and a
write that fails changes nothing, except for label settings. -/
theorem assignField_assigns (world : World σ) (limit : Nat)
    (fields : List (String × Field))
    (property : PropertySpec) (value : Value) :
    Assigns world limit fields property value
    (world.assignField fields property value) := by
  unfold assignField
  cases kind : property.kind with
  | text => exact assigns_keep fun kept gave _ => known_of_map gave fun _ => trivial
  | limitedText limit =>
    exact assigns_keep fun kept gave _ => known_of_map gave fun _ => trivial
  | flag => exact assigns_keep fun kept gave _ => known_of_map gave fun _ => trivial
  | int => exact assigns_keep fun kept gave _ => known_of_map gave fun _ => trivial
  | number =>
    exact assigns_keep fun kept gave _ => known_of_map gave fun _ => trivial
  | vec2 => exact assigns_keep fun kept gave _ => known_of_map gave fun _ => trivial
  | color =>
    exact assigns_keep fun kept gave _ => known_of_map gave fun _ => trivial
  | alignment =>
    exact assigns_keep fun kept gave _ => known_of_map gave fun _ => trivial
  | any => exact assigns_keep fun kept gave known => by cases gave; exact known
  | resource =>
    cases value with
    | null => exact assigns_keep fun kept gave known => by cases gave; exact known
    | resource content =>
      exact assigns_keep fun kept gave known => by cases gave; exact known
    | _ => exact assigns_nothing _
  | labelSettings =>
    cases value with
    | null => exact assigns_put (fun _ => trivial) nofun (.inl kind)
    | map entries => exact assigns_put (fun _ => trivial) nofun (.inl kind)
    | _ => exact assigns_nothing _
  | rows selection =>
    cases world.toRows value with
    | error error => exact assigns_nothing error
    | ok texts =>
      have whole : ∀ result : List (String × Field) × Except UiError Unit,
          (∀ entry ∈ result.1, entry ∈ fields ∨
            ∀ world : World σ, entry.2.Known world limit) →
          result.2 = .ok () → Assigns world limit fields property value result := by
        intro result entries success
        refine ⟨fun _ all entry member => ?_, fun _ _ _ _ => .inr ⟨selection, kind⟩,
          fun other => absurd kind (other selection), fun _ error failed => ?_⟩
        · rcases entries entry member with old | known
          · exact all entry old
          · exact known world
        · rw [success] at failed
          cases failed
      simp only
      split
      · refine whole _ (fun entry member => ?_) rfl
        rcases mem_putEntry member with inner | rfl
        · rcases mem_putEntry inner with old | rfl
          · exact .inl old
          · exact .inr fun _ => trivial
        · exact .inr fun _ => trivial
      · refine whole _ (fun entry member => ?_) rfl
        rcases mem_putEntry member with old | rfl
        · exact .inl old
        · exact .inr fun _ => trivial

/-! ## Conversions in worlds in agreement -/

section Agreement

variable {world other : World σ} {limit : Nat} {value : Value}

/-- Worlds in agreement give a known value the same text. -/
theorem Agrees.shown_eq (agrees : world.Agrees other)
    (known : value.Known world limit) :
    other.shown value = world.shown value := by
  have kept : value.renumber id = value :=
    Value.Known.renumber (fun _ _ => rfl) value known
  have same := agrees.shown id value known
  rwa [kept] at same

theorem Agrees.mismatch (agrees : world.Agrees other)
    (known : value.Known world limit) (what : String) :
    other.mismatch what value = world.mismatch what value := by
  have kept : value.renumber id = value :=
    Value.Known.renumber (fun _ _ => rfl) value known
  have same := agrees.typeName value known id
  rw [kept] at same
  rw [World.mismatch, World.mismatch, same]

theorem Agrees.toBool (agrees : world.Agrees other)
    (known : value.Known world limit) :
    other.toBool value = world.toBool value := by
  have failed := agrees.mismatch known "bool"
  cases value <;> simp only [World.toBool, failed]

theorem Agrees.toInt (agrees : world.Agrees other)
    (known : value.Known world limit) :
    other.toInt value = world.toInt value := by
  have failed := agrees.mismatch known "int"
  cases value <;> simp only [World.toInt, failed]

theorem Agrees.toFloat32 (agrees : world.Agrees other)
    (known : value.Known world limit) :
    other.toFloat32 value = world.toFloat32 value := by
  rw [World.toFloat32, World.toFloat32, agrees.mismatch known]

theorem Agrees.toVec2 (agrees : world.Agrees other)
    (known : value.Known world limit) :
    other.toVec2 value = world.toVec2 value := by
  have failed := agrees.mismatch known "vec2"
  cases value <;> simp only [World.toVec2, failed]

theorem Agrees.toColor (agrees : world.Agrees other)
    (known : value.Known world limit) :
    other.toColor value = world.toColor value := by
  have failed := agrees.mismatch known "color"
  cases value <;> simp only [World.toColor, failed]

theorem Agrees.toText (agrees : world.Agrees other)
    (known : value.Known world limit) :
    other.toText value = world.toText value := by
  have failed := agrees.mismatch known "string"
  have shown := agrees.shown_eq known
  cases value <;> simp only [World.toText, failed, shown]

theorem Agrees.toAlignment (agrees : world.Agrees other)
    (known : value.Known world limit) :
    other.toAlignment value = world.toAlignment value := by
  have failed := agrees.mismatch known "alignment"
  unfold World.toAlignment
  split <;> first
    | rfl
    | exact congrArg Except.error failed

/-- The rows of a known list are the same texts. -/
theorem Agrees.toRows (agrees : world.Agrees other)
    (sound : world.Sound limit) (known : value.Known world limit) :
    other.toRows value = world.toRows value := by
  have failed := agrees.mismatch known "list"
  cases value with
  | list id =>
    rw [World.toRows, World.toRows, agrees.items id known]
    have texts : ∀ items : List Value, (∀ item ∈ items, item.Known world limit) →
        items.mapM other.toText = items.mapM world.toText := by
      intro items
      induction items with
      | nil => exact fun _ => rfl
      | cons item rest hypothesis =>
        intro known
        rw [List.mapM_cons, List.mapM_cons,
          agrees.toText (known item List.mem_cons_self),
          hypothesis fun later member =>
            known later (List.mem_cons_of_mem _ member)]
    exact texts _ (sound.items id)
  | _ => simp only [World.toRows, failed]

/-- The entries of label settings have the same effect. -/
theorem Agrees.applySettings (agrees : world.Agrees other)
    (settings : LabelSettings) {entries : List (String × Value)}
    (known : Value.EntriesKnown world limit entries) :
    other.applySettings settings entries =
      world.applySettings settings entries := by
  induction entries generalizing settings with
  | nil => rfl
  | cons entry rest hypothesis =>
    obtain ⟨key, value⟩ := entry
    have same : other.applySetting settings key value =
          world.applySetting settings key value := by
      unfold World.applySetting
      rw [agrees.toFloat32 known.1, agrees.toColor known.1]
    rw [World.applySettings, World.applySettings, same]
    cases world.applySetting settings key value with
    | ok changed => exact hypothesis changed known.2
    | error error => rfl

/-- To write a known value to a property has the same effect in worlds in
agreement. -/
theorem Agrees.assignField (agrees : world.Agrees other)
    (sound : world.Sound limit) (known : value.Known world limit)
    (fields : List (String × Field)) (property : PropertySpec) :
    other.assignField fields property value =
      world.assignField fields property value := by
  unfold World.assignField
  cases property.kind with
  | text => rw [agrees.toText known]
  | limitedText bound => rw [agrees.toText known]
  | flag initial => rw [agrees.toBool known]
  | int initial => rw [agrees.toInt known]
  | number => rw [agrees.toFloat32 known]
  | vec2 => rw [agrees.toVec2 known]
  | color => rw [agrees.toColor known]
  | alignment => rw [agrees.toAlignment known]
  | rows selection => rw [agrees.toRows sound known]
  | any => rfl
  | resource =>
    have failed := agrees.mismatch known "resource"
    cases value <;> simp only [failed]
  | labelSettings =>
    have failed := agrees.mismatch known "label settings"
    cases value with
    | map entries => simp only [agrees.applySettings _ known]
    | _ => simp only [failed]

end Agreement

end World

/-- To write a property is to look it up, to assign to its field, and to
announce it if that succeeds. -/
theorem WidgetId.write_run {σ : Type} (deliver : Deliver σ) (id : WidgetId)
    (name : String)
    (value : Value) (world : World σ) :
    (id.write deliver name value).run world =
      match (world.widget id).cls.property? name with
      | none => (.error (.propertyNotFound (world.widget id).cls.name name), world)
      | some property =>
        let result := world.assignField (world.widget id).fields property value
        let written := world.updateWidget id ({ · with fields := result.1 })
        match result.2 with
        | .error error => (.error error, written)
        | .ok () =>
          (.ok (), (ObjectId.notify deliver (.widget id) property.name
              written).2) := by
  unfold WidgetId.write
  rw [Attempt.bind_run, Attempt.getThe_run]
  cases found : (world.widget id).cls.property? name with
  | none =>
    simp only [found]
    rfl
  | some property =>
    rcases result : world.assignField (world.widget id).fields property value
      with ⟨fields, outcome⟩
    simp only [found, result]
    cases outcome <;> rfl

end LiveMarkup
