import Mathlib
import LiveMarkup.Proofs.Listening.Spellings
import LiveMarkup.Proofs.Naming.Uniqueness
import LiveMarkup.Proofs.Text.Identifiers
import LiveMarkup.Proofs.Results

/-!
# Key casing is a renaming

Between identifiers with underscores and identifiers with inner capitals the two
spellings are inverse to each other.  So a key converter to inner capitals never
gives one name to two keys with underscores: a document with such keys is read
as before, with its keys renamed.  And widgets answer to the new keys as they
did to the old ones, if their class registers its names with underscores, as
every built-in class does.
-/

namespace LiveMarkup

open Text (IsSnakeName IsPascalName)

/-- Every key and every event of a document is an identifier with underscores. -/
def Document.SnakeKeyed (document : Document) : Prop :=
  ∀ list ∈ document.root.keyLists, ∀ key ∈ list, IsSnakeName key

/-- The names that a class registers are identifiers with underscores. -/
structure WidgetClass.SnakeNamed (cls : WidgetClass) : Prop where
  properties : ∀ property ∈ cls.properties, IsSnakeName property.name
  events : ∀ event ∈ cls.events, IsSnakeName event

theorem WidgetClass.SnakeNamed.underscored {cls : WidgetClass}
    (named : cls.SnakeNamed) : cls.Underscored := by
  constructor
  · intro property member
    exact (named.properties property member).snakeCase_eq
  · intro event member
    exact (named.events event member).snakeCase_eq

/-- The capitalised spelling of a registered name means that name. -/
theorem Text.IsSnakeName.isSpelling {name : String} (snake : IsSnakeName name) :
    IsSpelling (KeyCasing.pascal.convert name) name :=
  .inr snake.snakeCase_pascalCase

instance (cls : WidgetClass) : Decidable cls.SnakeNamed :=
  decidable_of_iff ((∀ property ∈ cls.properties, IsSnakeName property.name) ∧
      ∀ event ∈ cls.events, IsSnakeName event)
    ⟨fun both => ⟨both.1, both.2⟩, fun named => ⟨named.properties, named.events⟩⟩

/-- The built-in classes register names with underscores. -/
theorem Builtin.snakeNamed : ∀ cls ∈ Builtin.registry, cls.SnakeNamed := by
  decide +kernel

/-- Keys with underscores keep apart when they get inner capitals. -/
theorem Document.SnakeKeyed.read_pascal {source : String}
    {document : Document} (keyed : document.SnakeKeyed)
    (accepted : Document.read .none source = .ok document) :
    Document.read (.ofKeys [KeyCasing.pascal.convert]) source =
      .ok (document.rename KeyCasing.pascal.convert) := by
  rcases Document.read_beside [KeyCasing.pascal.convert] source
    with ⟨_, _, refused, _⟩ |
    ⟨plain, same, ⟨_, renamed⟩ | ⟨_, key, _, _, merges⟩⟩
  · rw [accepted] at refused
    cases refused
  · rw [accepted] at same
    cases same
    exact renamed
  · rw [accepted] at same
    cases same
    obtain ⟨list, member, first, inside, second, alsoInside, differ, gets,
        alsoGets⟩ :=
      merges
    have equal : KeyCasing.pascal.convert first = KeyCasing.pascal.convert second :=
      gets.trans alsoGets.symm
    exact absurd ((keyed list member first inside).eq_of_pascalCase_eq
      (keyed list member second alsoInside) equal) differ

/-- The spellings with underscores and with inner capitals are inverse to each
other on identifiers.  The converter to inner capitals gives different names to
different keys with underscores, in every document; whoever writes or reads a
property of a widget or raises an event under the new name does it under the
registered one. -/
theorem key_casing_faithful :
    (∀ text,
      IsSnakeName text →
        IsPascalName (Text.pascalCase text) ∧
        Text.snakeCase (Text.pascalCase text) = text) ∧
    (∀ text,
      IsPascalName text →
        IsSnakeName (Text.snakeCase text) ∧
        Text.pascalCase (Text.snakeCase text) = text) ∧
    (∀ first second,
      IsSnakeName first → IsSnakeName second → first ≠ second →
      KeyCasing.pascal.convert first ≠ KeyCasing.pascal.convert second) ∧
    (∀ source document,
      Document.read .none source = .ok document → document.SnakeKeyed →
      Document.read (.ofKeys [KeyCasing.pascal.convert]) source =
        .ok (document.rename KeyCasing.pascal.convert)) ∧
    (∀ cls ∈ Builtin.registry, cls.SnakeNamed) ∧
    ∀ (σ : Type) (deliver : Deliver σ) (world : World σ) (widget : WidgetId),
      (world.widget widget).cls.SnakeNamed →
        (∀ property ∈ (world.widget widget).cls.properties,
          (∃ found,
            (world.widget widget).cls.property?
              (KeyCasing.pascal.convert property.name) = some found ∧
            found.name = property.name) ∧
          (∀ value,
            (widget.write deliver (KeyCasing.pascal.convert property.name)
              value).run world =
              (widget.write deliver property.name value).run world) ∧
          (ObjectId.read (.widget widget)
            (KeyCasing.pascal.convert property.name) :
            Action σ (Option Value)) world =
            ObjectId.read (.widget widget) property.name world) ∧
        ∀ event ∈ (world.widget widget).cls.events,
          (world.widget widget).cls.event? (KeyCasing.pascal.convert event) =
            some event := by
  refine ⟨fun text snake => ⟨snake.pascalCase, snake.snakeCase_pascalCase⟩,
    fun text pascal => ⟨pascal.snakeCase, pascal.pascalCase_snakeCase⟩,
    fun first second snake otherSnake differ same =>
      differ (snake.eq_of_pascalCase_eq otherSnake same),
      fun source document accepted keyed => keyed.read_pascal accepted,
      Builtin.snakeNamed, ?_⟩
  intro σ deliver world widget named
  have underscored := named.underscored
  refine ⟨fun property member => ?_, fun event member => ?_⟩
  · have spells := (named.properties property member).isSpelling
    refine ⟨underscored.property?_some member spells, ?_,
      underscored.read_apply member spells⟩
    intro value
    exact underscored.write_run member spells value
  · exact underscored.event?_spelling member (named.events event member).isSpelling

/-- A field with a limit and a text. -/
def limitedFieldSource : String :=
  "LineEdit\x7bmax_length:3,placeholder_text:\"say\"\x7d"

/-- The document is accepted, and these are its keys. -/
theorem limitedField_read :
    ∃ document,
      Document.read .none limitedFieldSource = .ok document ∧
      document.root.keyLists = [["max_length", "placeholder_text"], []] := by
  have shape :
      (Document.read .none limitedFieldSource).toOption.map (·.root.keyLists) =
        some [["max_length", "placeholder_text"], []] := by
    cbv
  exact exists_eq_ok_of_map shape

/-- A world with one field. -/
def fieldWorld : World Unit :=
  (({ host := () } : World Unit).newWidget Builtin.lineEdit).2

/-- A key goes through both cases and back, a document is read with its keys in
the other case, and its widget has the property. -/
theorem key_casing_faithful_field :
    Text.snakeCase (Text.pascalCase "max_length") = "max_length" ∧
    Text.pascalCase (Text.snakeCase "MaxLength2D") = "MaxLength2D" ∧
    KeyCasing.pascal.convert "max_length" ≠
      KeyCasing.pascal.convert "maxlength" ∧
    (∃ document,
      Document.read .none limitedFieldSource = .ok document ∧
      Document.read (.ofKeys [KeyCasing.pascal.convert]) limitedFieldSource =
        .ok (document.rename KeyCasing.pascal.convert)) ∧
    ∃ found,
      (fieldWorld.widget ⟨0⟩).cls.property?
        (KeyCasing.pascal.convert "max_length") = some found ∧
      found.name = "max_length" := by
  obtain ⟨snakeBack, pascalBack, apart, converted, builtin, reached⟩ :=
    key_casing_faithful
  obtain ⟨document, accepted, keys⟩ := limitedField_read
  have keyed : document.SnakeKeyed := by
    rw [Document.SnakeKeyed, keys]
    decide +kernel
  have named : (fieldWorld.widget ⟨0⟩).cls.SnakeNamed :=
    builtin Builtin.lineEdit (by decide)
  have member :
      ⟨"max_length", .int 0⟩ ∈ (fieldWorld.widget ⟨0⟩).cls.properties := by
    decide
  refine ⟨(snakeBack "max_length" (by decide +kernel)).2,
    (pascalBack "MaxLength2D" (by decide +kernel)).2, ?_, ?_, ?_⟩
  · exact apart "max_length" "maxlength" (by decide +kernel)
      (by decide +kernel) (by decide)
  · exact ⟨document, accepted, converted _ document accepted keyed⟩
  · exact ((reached Unit (fun _ => pure ()) fieldWorld ⟨0⟩ named).1 _ member).1

end LiveMarkup
