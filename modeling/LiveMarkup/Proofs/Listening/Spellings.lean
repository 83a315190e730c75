import LiveMarkup.Proofs.Listening.Sessions
import LiveMarkup.Proofs.Listening.Cascading

/-!
# Spellings of properties and events

When the registered names of a class are in underscored form, all spellings of a
property are one: whoever writes it, reads it or listens to it may spell it
differently.  So are all spellings of an event.
-/

namespace LiveMarkup

variable {σ : Type}

open World (Heeds Attentive Upholds)

/-- All registered names of a class are in underscored form. -/
structure WidgetClass.Underscored (cls : WidgetClass) : Prop where
  properties :
      ∀ property ∈ cls.properties, Text.snakeCase property.name = property.name
  events : ∀ event ∈ cls.events, Text.snakeCase event = event

/-- A text means a registered name. -/
def IsSpelling (spelling name : String) : Prop :=
  spelling = name ∨ Text.snakeCase spelling = name

variable {cls : WidgetClass} {spelling name : String}

theorem IsSpelling.snakeCase (spells : IsSpelling spelling name)
    (underscored : Text.snakeCase name = name) :
    Text.snakeCase spelling = name := by
  rcases spells with rfl | same
  · exact underscored
  · exact same

/-- Who reads a property in any spelling hears of it. -/
theorem IsSpelling.hears (spells : IsSpelling spelling name)
    (underscored : Text.snakeCase name = name) :
    hears spelling name = true := by
  simp only [LiveMarkup.hears, Text.sameKey, Bool.or_eq_true, beq_iff_eq]
  exact .inr (underscored.trans (spells.snakeCase underscored).symm)

/-- No spelling means two properties. -/
theorem IsSpelling.unique {other : String}
    (spells : IsSpelling spelling name)
    (spellsOther : IsSpelling spelling other)
    (underscored : Text.snakeCase name = name)
    (underscoredOther : Text.snakeCase other = other) :
    name = other :=
  (spells.snakeCase underscored).symm.trans (spellsOther.snakeCase underscoredOther)

/-- Who hears of a property has read it in some spelling.  The empty name is
announced for everything. -/
theorem IsSpelling.of_hears
    (named : name ≠ "")
    (underscored : Text.snakeCase name = name)
    (heard : LiveMarkup.hears spelling name = true) :
    IsSpelling spelling name := by
  simp only [LiveMarkup.hears, Text.sameKey, Bool.or_eq_true, beq_iff_eq] at heard
  rcases heard with (empty | same) | same
  · exact absurd (String.isEmpty_iff.mp empty) named
  · exact .inl same.symm
  · exact .inr (same.symm.trans underscored)

namespace WidgetClass.Underscored

/-- The registered name of a property finds the first property of that name. -/
theorem property?_name (underscored : cls.Underscored)
    {property : PropertySpec} (member : property ∈ cls.properties) :
    cls.property? property.name =
      cls.properties.find? (·.name == property.name) := by
  rw [property?, underscored.properties property member]
  cases cls.properties.find? (·.name == property.name) <;> rfl

/-- So does any spelling. -/
theorem property?_spelling (underscored : cls.Underscored)
    {property : PropertySpec} (member : property ∈ cls.properties)
    (spells : IsSpelling spelling property.name) :
    cls.property? spelling = cls.property? property.name := by
  rcases spells with rfl | snake
  · rfl
  · rw [underscored.property?_name member, property?, snake]
    cases found : cls.properties.find? (·.name == spelling) with
    | none => rfl
    | some other =>
      -- a spelling that is registered itself is the underscored form
      have same : other.name = spelling := by simpa using List.find?_some found
      have own := underscored.properties other (List.mem_of_find?_eq_some found)
      rw [same, snake] at own
      rw [own, found]
      rfl

theorem property?_some (underscored : cls.Underscored)
    {property : PropertySpec} (member : property ∈ cls.properties)
    (spells : IsSpelling spelling property.name) :
    ∃ found,
      cls.property? spelling = some found ∧ found.name = property.name := by
  rw [underscored.property?_spelling member spells,
    underscored.property?_name member]
  cases found : cls.properties.find? (·.name == property.name) with
  | none =>
    exact absurd (beq_self_eq_true property.name)
      (List.find?_eq_none.mp found property member)
  | some other => exact ⟨other, rfl, by simpa using List.find?_some found⟩

/-- Any spelling of an event finds its registered name. -/
theorem event?_spelling (underscored : cls.Underscored) {event : String}
    (member : event ∈ cls.events) (spells : IsSpelling spelling event) :
    cls.event? spelling = some event := by
  have same := spells.snakeCase (underscored.events event member)
  rw [event?]
  cases found : cls.events.find? fun other => other == spelling ||
    other == Text.snakeCase spelling with
  | none =>
    have not := List.find?_eq_none.mp found event member
    simp [same] at not
  | some other =>
    have means := List.find?_some found
    simp only [Bool.or_eq_true, beq_iff_eq] at means
    rcases means with rfl | snake
    · rw [← same, underscored.events other (List.mem_of_find?_eq_some found)]
    · rw [snake, same]

end WidgetClass.Underscored

/-! ## Properties -/

section

variable {world after : World σ} {deliver : Deliver σ} {widget : WidgetId}
  {property : PropertySpec}

/-- To write through any spelling is to write through the registered name. -/
theorem WidgetClass.Underscored.write_run
    (underscored : (world.widget widget).cls.Underscored)
    (member : property ∈ (world.widget widget).cls.properties)
    (spells : IsSpelling spelling property.name) (value : Value) :
    (widget.write deliver spelling value).run world =
      (widget.write deliver property.name value).run world := by
  rw [WidgetId.write_run, WidgetId.write_run,
    underscored.property?_spelling member spells]
  obtain ⟨found, same, _⟩ := underscored.property?_some member (.inl rfl)
  rw [same]

/-- To read through any spelling is to read through the registered name. -/
theorem WidgetClass.Underscored.read_apply
    (underscored : (world.widget widget).cls.Underscored)
    (member : property ∈ (world.widget widget).cls.properties)
    (spells : IsSpelling spelling property.name) :
    (ObjectId.read (.widget widget) spelling : Action σ (Option Value)) world =
      ObjectId.read (.widget widget) property.name world := by
  rw [World.read_apply, World.read_apply, World.sees, World.sees,
    underscored.property?_spelling member spells]

/-- A write succeeds if the property can hold the value. -/
theorem WidgetId.write_ok {value : Value}
    (found : (world.widget widget).cls.property? name = some property)
    (holds :
      (world.assignField (world.widget widget).fields property value).2 =
        .ok ()) :
    (widget.write deliver name value).run world =
      (.ok (), ((widget.write deliver name value).run world).2) := by
  rw [WidgetId.write_run, found]
  dsimp only
  rw [holds]

/-- A write that succeeds replaces what the property holds, and announces the
registered name once. -/
theorem WidgetClass.Underscored.write_announces
    (underscored : (world.widget widget).cls.Underscored)
    (member : property ∈ (world.widget widget).cls.properties)
    (spells : IsSpelling spelling property.name) {value : Value}
    (succeeded :
      (widget.write deliver spelling value).run world = (.ok (), after)) :
    ∃ found,
      (world.widget widget).cls.property? spelling = some found ∧
      found.name = property.name ∧
      after =
        (ObjectId.notify deliver (.widget widget) property.name
          (world.updateWidget widget
            ({ · with fields :=
              (world.assignField (world.widget widget).fields found value).1
              }))).2 := by
  obtain ⟨found, same, named⟩ := underscored.property?_some member spells
  rw [WidgetId.write_run, same] at succeeded
  refine ⟨found, same, named, ?_⟩
  dsimp only at succeeded
  cases outcome : (world.assignField (world.widget widget).fields found value).2
    with
  | error error =>
    rw [outcome] at succeeded
    cases succeeded
  | ok =>
    rw [outcome] at succeeded
    cases succeeded
    rw [named]

end

/-! ## Events -/

namespace World

/-- The handlers of an event in the order they were connected. -/
def handlersOf (world : World σ) (widget : WidgetId) (event : String) :
    List Handler :=
  ((world.widget widget).connections.filter (·.1 == event)).map Prod.snd

/-- The world in which a handler runs whenever an event is raised. -/
def connected (world : World σ) (widget : WidgetId) (event : String)
    (handler : Handler) : World σ :=
  world.updateWidget widget fun old =>
    { old with connections := old.connections ++ [(event, handler)] }

theorem handlersOf_connected {world : World σ} {widget : WidgetId}
    (inside : widget.index < world.widgets.size) (event other : String)
    (handler : Handler) :
    (world.connected widget event handler).handlersOf widget other =
      world.handlersOf widget other ++ if event = other then [handler]
        else [] := by
  rw [handlersOf, connected, widget_updateWidget, if_pos ⟨rfl, inside⟩,
    List.filter_append, List.map_append, handlersOf]
  by_cases same : event = other <;> simp [same]

end World

section

variable {world : World σ} {deliver : Deliver σ} {widget : WidgetId}
  {event : String}

theorem WidgetClass.Underscored.event_run
    (underscored : (world.widget widget).cls.Underscored)
    (member : event ∈ (world.widget widget).cls.events)
    (spells : IsSpelling spelling event) :
    (widget.event spelling : Attempt σ String).run world =
      (.ok event, world) := by
  rw [WidgetId.event, Attempt.bind_run, Attempt.getThe_run]
  dsimp only
  rw [underscored.event?_spelling member spells]
  rfl

/-- To connect a handler under any spelling is to connect it under the
registered name. -/
theorem WidgetClass.Underscored.connect_run
    (underscored : (world.widget widget).cls.Underscored)
    (member : event ∈ (world.widget widget).cls.events)
    (spells : IsSpelling spelling event) (handler : Handler) :
    (widget.connect spelling handler : Attempt σ Unit).run world =
      (.ok (), world.connected widget event handler) := by
  rw [WidgetId.connect, Attempt.bind_run, underscored.event_run member spells]
  rfl

/-- To raise an event under any spelling is to run the handlers of the
registered name. -/
theorem WidgetClass.Underscored.emit_run
    (underscored : (world.widget widget).cls.Underscored)
    (member : event ∈ (world.widget widget).cls.events)
    (spells : IsSpelling spelling event) (arguments : List Value) :
    (widget.emit deliver spelling arguments).run world =
      (.ok (),
         (runAll deliver ((world.handlersOf widget event).map
           (.event · arguments)) world).2) := by
  rw [WidgetId.emit, Attempt.bind_run, underscored.event_run member spells]
  dsimp only
  rw [Attempt.bind_run, Attempt.getThe_run, World.handlersOf, List.map_map]
  rfl

theorem WidgetClass.inside_of_event
    (member : event ∈ (world.widget widget).cls.events) :
    widget.index < world.widgets.size :=
  Decidable.byContradiction fun outside => by
    rw [World.widget_of_not_lt outside] at member
    cases member

end

/-! ## All spellings are one -/

namespace World

/-- A live property that has not read a property of a widget, in any spelling,
was not evaluated, if all that the widget set was asked to write was that
property, or something that the live property has not read. -/
def Spares (world : World σ) (widget : WidgetId) (name : String)
    (after : World σ) : Prop :=
  ∃ calls : List ToolkitCall, after.journal = calls ++ world.journal ∧
      ∀ id,
        (∀ binding,
          world.binding? id = some binding →
          ∀ spelling,
            (.widget widget, spelling) ∈ binding.watched →
            ¬ IsSpelling spelling name) →
        (∀ target key text,
          .set target key text ∈ calls →
            target = widget ∧ IsSpelling key name ∨
            ¬ world.HearsOf id (.inr target) (Text.snakeCase key)) →
        after.evaluations id = world.evaluations id

end World

/-- What holds of a property of the widgets of a class, however it is spelled. -/
structure OneProperty (observer : Host σ) (cls : WidgetClass)
    (property : PropertySpec) : Prop where
  write :
      ∀ (deliver : Deliver σ) (world : World σ) (widget : WidgetId)
          spelling value,
        (world.widget widget).cls = cls → IsSpelling spelling property.name →
        (widget.write deliver spelling value).run world =
          (widget.write deliver property.name value).run world
  /-- A write that succeeds replaces what the property holds, and announces the
  registered name once. -/
  announces : ∀ (deliver : Deliver σ) (world after : World σ)
    (widget : WidgetId) spelling value,
    (world.widget widget).cls = cls → IsSpelling spelling property.name →
      (widget.write deliver spelling value).run world = (.ok (), after) →
        ∃ found, cls.property? property.name = some found ∧
          after = (ObjectId.notify deliver (.widget widget) property.name
            (world.updateWidget widget ({ · with
              fields :=
                (world.assignField (world.widget widget).fields found value).1
                }))).2
  read : ∀ (world : World σ) (widget : WidgetId) spelling,
    (world.widget widget).cls = cls → IsSpelling spelling property.name →
      (ObjectId.read (.widget widget) spelling : Action σ (Option Value)) world =
        ObjectId.read (.widget widget) property.name world
  readBack :
      ∀ (world : World σ) (widget : WidgetId) depth written spelling value
          outcome after,
        Attentive world → (world.widget widget).cls = cls →
        IsSpelling written property.name → IsSpelling spelling property.name →
        value.Known world world.loaded →
        (widget.write (observer.deliver depth) written value).run world =
          (outcome, after) →
        (ObjectId.read (.widget widget) spelling :
          Action σ (Option Value)) after =
          ObjectId.read (.widget widget) property.name after
  /-- A live property that has read it is evaluated when it is written, unless
  it is being refreshed. -/
  refreshes :
      ∀ (world : World σ) (widget : WidgetId) depth written spelling value
          after id binding,
        Attentive world → (world.widget widget).cls = cls →
        IsSpelling written property.name → IsSpelling spelling property.name →
        value.Known world world.loaded → world.Alive id →
        world.isBusy id = false → world.binding? id = some binding →
        (.widget widget, spelling) ∈ binding.watched →
        (widget.write (observer.deliver (depth + 1)) written value).run world =
          (.ok (), after) →
        world.evaluations id < after.evaluations id
  /-- A live property that has not read another property is not evaluated
  because that one is written.  The empty name, which announces that anything
  may have changed, is not that of another one. -/
  spares :
      ∀ (world : World σ) (widget : WidgetId) depth (other : PropertySpec)
          written value outcome after,
        Attentive world → (world.widget widget).cls = cls →
        other ∈ cls.properties → other.name ≠ property.name →
        other.name ≠ "" → IsSpelling written other.name →
        value.Known world world.loaded →
        (widget.write (observer.deliver depth) written value).run world =
          (outcome, after) →
        world.Spares widget other.name after
  /-- No spelling of it is one of another property. -/
  distinct : ∀ other ∈ cls.properties, other.name ≠ property.name → ∀ spelling,
    IsSpelling spelling property.name → ¬ IsSpelling spelling other.name

/-- What holds of an event of the widgets of a class, however it is spelled. -/
structure OneEvent (σ : Type) (cls : WidgetClass) (event : String) : Prop where
  connect : ∀ (world : World σ) (widget : WidgetId) spelling handler,
    (world.widget widget).cls = cls → IsSpelling spelling event →
      (widget.connect spelling handler : Attempt σ Unit).run world =
        (.ok (), world.connected widget event handler)
  emit :
      ∀ (deliver : Deliver σ) (world : World σ) (widget : WidgetId)
          spelling arguments,
        (world.widget widget).cls = cls → IsSpelling spelling event →
        (widget.emit deliver spelling arguments).run world =
          (.ok (),
             (runAll deliver ((world.handlersOf widget event).map
               (.event · arguments)) world).2)
  runs : ∀ (world : World σ) (widget : WidgetId) handler,
      (world.widget widget).cls = cls →
      (world.connected widget event handler).handlersOf widget event =
        world.handlersOf widget event ++ [handler]
  others : ∀ (world : World σ) (widget : WidgetId) handler other,
      (world.widget widget).cls = cls → other ≠ event →
      (world.connected widget event handler).handlersOf widget other =
        world.handlersOf widget other

section

variable {world after : World σ} {observer : Host σ} {widget : WidgetId}
  {property : PropertySpec}
  {event : String}

theorem OneEvent.of_underscored
    (underscored : cls.Underscored)
    (member : event ∈ cls.events) :
    OneEvent σ cls event where
  connect world widget spelling handler is := by
    subst is
    exact fun spells => underscored.connect_run member spells handler
  emit deliver world widget spelling arguments is := by
    subst is
    exact fun spells => underscored.emit_run member spells arguments
  runs world widget handler is := by
    subst is
    rw [World.handlersOf_connected (WidgetClass.inside_of_event member), if_pos rfl]
  others world widget handler other is differs := by
    subst is
    rw [World.handlersOf_connected (WidgetClass.inside_of_event member),
      if_neg differs.symm, List.append_nil]

variable {value : Value} {outcome : Except UiError Unit}

/-- A live property at work stays so when the properties of a widget are changed. -/
theorem World.Alive.updateWidget {id : BindingId} (alive : world.Alive id)
    {change : Widget → Widget}
    (upholds : world.Upholds (world.updateWidget widget change)) :
    (world.updateWidget widget change).Alive id := by
  refine ⟨alive.recorded, alive.subscribed, ?_⟩
  intro binding found
  exact upholds.anchored (alive.anchored binding found)

/-- A live property that has read a property is evaluated when it is written in
any spelling. -/
theorem World.Attentive.refreshes (attentive : Attentive world)
    (looksOn : observer.LooksOn)
    (underscored : (world.widget widget).cls.Underscored)
    (member : property ∈ (world.widget widget).cls.properties) {depth : Nat}
    {written spelling : String} (writes : IsSpelling written property.name)
    (reads : IsSpelling spelling property.name)
    (known : value.Known world world.loaded) {id : BindingId}
    (alive : world.Alive id) (idle : world.isBusy id = false)
    {binding : LiveBinding} (found : world.binding? id = some binding)
    (read : (.widget widget, spelling) ∈ binding.watched)
    (succeeded :
      (widget.write (observer.deliver (depth + 1)) written value).run world =
        (.ok (), after)) : world.evaluations id < after.evaluations id := by
  obtain ⟨spec, same, named, announced⟩ :=
    underscored.write_announces member writes succeeded
  have assigned := attentive.observed_assign same known
  have heard := reads.hears (underscored.properties property member)
  rw [World.evaluations_of found, announced]
  exact looksOn.notify_evaluates depth assigned.heeds.attentive idle
    (alive.updateWidget assigned.upholds) found read rfl heard

/-- Live properties that have read nothing of what is written are not evaluated. -/
theorem World.Attentive.spares (attentive : Attentive world)
    (looksOn : observer.LooksOn)
    (underscored : (world.widget widget).cls.Underscored)
    (member : property ∈ (world.widget widget).cls.properties) {depth : Nat}
    (named : property.name ≠ "") {written : String}
    (writes : IsSpelling written property.name)
    (known : value.Known world world.loaded)
    (ran :
      (widget.write (observer.deliver depth) written value).run world =
        (outcome, after)) : world.Spares widget property.name after := by
  have observed := (looksOn.observing depth).write attentive widget written known
  obtain ⟨calls, journal, rouses⟩ :=
    (looksOn.rippling depth).write (looksOn.observing depth) attentive widget
      written known
  rw [ran] at observed journal rouses
  refine ⟨calls, journal, fun id unread apart =>
    rouses.evaluations_eq observed.upholds.stays ?_⟩
  have deaf : ¬ world.HearsOf id (.inr widget) property.name := by
    rintro ⟨binding, found, ⟨object, spelling⟩, read, announced, heard⟩
    have here : object = .widget widget := by
      cases object with
      | widget target => exact congrArg ObjectId.widget (Sum.inr.inj announced)
      | _ => cases announced
    subst here
    exact unread binding found spelling read
      (.of_hears named (underscored.properties property member) heard)
  rintro (⟨spec, same, hearsOf⟩ | ⟨target, key, text, call, hearsOf⟩)
  · obtain ⟨found, foundSpec, sameName⟩ := underscored.property?_some member writes
    cases same.symm.trans foundSpec
    exact deaf (sameName ▸ hearsOf)
  · rcases apart target key text call with ⟨rfl, spells⟩ | notHearing
    · exact deaf (spells.snakeCase (underscored.properties property member) ▸
        hearsOf)
    · exact notHearing hearsOf

theorem OneProperty.of_underscored
    (looksOn : observer.LooksOn)
    (underscored : cls.Underscored)
    (member : property ∈ cls.properties) :
    OneProperty observer cls property where
  write deliver world widget spelling value is := by
    subst is
    exact fun spells => underscored.write_run member spells value
  announces deliver world after widget spelling value is spells succeeded := by
    subst is
    obtain ⟨found, spelled, _, announced⟩ :=
      underscored.write_announces member spells succeeded
    exact ⟨found, (underscored.property?_spelling member spells).symm.trans
      spelled, announced⟩
  read world widget spelling is := by
    subst is
    exact fun spells => underscored.read_apply member spells
  readBack world widget depth written spelling value outcome after attentive is
      writes spells known ran := by
    have observed := (looksOn.observing depth).write attentive widget written known
    rw [ran] at observed
    have same : (after.widget widget).cls = cls :=
      (observed.upholds.stays.cls_eq widget).trans is
    subst same
    exact underscored.read_apply member spells
  refreshes world widget depth written spelling value after id binding attentive
      is writes reads known alive idle found read succeeded := by
    subst is
    exact attentive.refreshes looksOn underscored member writes reads known
      alive idle found read succeeded
  spares world widget depth other written value outcome after attentive is
      memberOther differs named writes known ran := by
    subst is
    exact attentive.spares looksOn underscored memberOther named writes known ran
  distinct other memberOther differs spelling spells spellsOther :=
    differs (spellsOther.unique spells (underscored.properties other memberOther)
      (underscored.properties property member))

end

/-- If the registered names of a class are in underscored form, all spellings of
a property are one, and all spellings of an event.  In the course of any session
live properties listen to what they have read, and when the host acts none is
being refreshed. -/
theorem spellings_are_one {host observer : Host σ} (sensible : host.Sensible)
    (looksOn : observer.LooksOn) {cls : WidgetClass}
    (underscored : cls.Underscored) {start : World σ}
    (unrendered : start.Unrendered) :
    (∀ property ∈ cls.properties, OneProperty observer cls property) ∧
    (∀ event ∈ cls.events, OneEvent σ cls event) ∧
    ∀ nesting world,
      World.Acts (host.deliver nesting) Act.Sensible start world →
      Attentive world ∧ ∀ id, world.isBusy id = false := by
  refine ⟨fun property member => ?_, fun event member => ?_,
    fun nesting world session => ?_⟩
  · exact .of_underscored looksOn underscored member
  · exact .of_underscored underscored member
  · exact session.attentive unrendered sensible

namespace World

/-! A label shows what an empty field would say.  The document spells the
property in its own way, and the host does so in another when it writes it. -/

/-- The source text of the field and the label. -/
def placeholderSource : String :=
  "VBox \x7b @field: LineEdit \x7b \x7d " ++
    "Label \x7b text := @field.placeholderText \x7d \x7d"

/-- The world in which they are shown. -/
def placeholderShown : World Unit :=
  (Act.renderSource placeholderSource ⟨⟨0⟩, false, []⟩ ⟨0⟩).perform
    (Host.silent.deliver 5) divisorStart

/-- The world after it is written. -/
def placeholderWritten : World Unit :=
  ((WidgetId.write (Host.silent.deliver (0 + 1)) ⟨2⟩ "PlaceholderText"
    (.text "new")).run placeholderShown).2

theorem placeholder_session :
    Acts (Host.silent.deliver 5) Act.Sensible divisorStart placeholderShown :=
  .act _ .done (show 0 < _ by decide +kernel)

theorem placeholderShown_shape :
    (placeholderShown.widget ⟨2⟩).cls = Builtin.lineEdit ∧
    (placeholderShown.binding? ⟨0⟩).map
      (fun binding => (binding.handle, binding.widget,
        binding.subscriptions.isEmpty)) = some (⟨0⟩, ⟨3⟩, false) ∧
    (placeholderShown.binding? ⟨0⟩).map
      (fun binding => (binding.generation, binding.watched)) =
      some (1, [(.widget ⟨2⟩, "placeholderText")]) ∧
    .binding ⟨0⟩ ∈ (placeholderShown.handle ⟨0⟩).subscriptions ∧
    (placeholderShown.handle ⟨0⟩).root = some ⟨1⟩ ∧
    ⟨3⟩ ∈ (placeholderShown.widget ⟨1⟩).children := by
  decide +kernel

theorem lineEdit_underscored : Builtin.lineEdit.Underscored :=
  ⟨by decide +kernel, by decide +kernel⟩

theorem placeholder_write :
    (WidgetId.write (Host.silent.deliver (0 + 1)) ⟨2⟩ "PlaceholderText"
      (.text "new")).run placeholderShown = (.ok (), placeholderWritten) := by
  have found : (placeholderShown.widget ⟨2⟩).cls.property? "PlaceholderText" =
      some ⟨"placeholder_text", .text⟩ := by
    rw [placeholderShown_shape.1]
    decide +kernel
  exact WidgetId.write_ok found rfl

theorem placeholderShown_alive : placeholderShown.Alive ⟨0⟩ := by
  obtain ⟨_, shape, _, recorded, root, child⟩ := placeholderShown_shape
  exact alive_of_shape shape recorded (.child (.root .document root) child)

/-- The label is evaluated again when the property is written. -/
theorem spellings_of_placeholder : 1 < placeholderWritten.evaluations ⟨0⟩ ∧
    (∀ property ∈ Builtin.lineEdit.properties,
      OneProperty (Host.silent : Host Unit) Builtin.lineEdit property) ∧
    ∀ event ∈ Builtin.lineEdit.events, OneEvent Unit Builtin.lineEdit event := by
  obtain ⟨cls, _, shape, _⟩ := placeholderShown_shape
  obtain ⟨properties, events, sessions⟩ :=
    spellings_are_one Host.silent_sensible Host.silent_looksOn
      lineEdit_underscored divisorStart_unrendered
  obtain ⟨attentive, resting⟩ := sessions 5 placeholderShown placeholder_session
  have known :
      (Value.text "new").Known placeholderShown placeholderShown.loaded :=
    trivial
  obtain ⟨binding, found, same⟩ := Option.map_eq_some_iff.mp shape
  obtain ⟨once, watched⟩ := Prod.mk.inj same
  have more :=
    (properties ⟨"placeholder_text", .text⟩ (by decide +kernel)).refreshes
      placeholderShown ⟨2⟩ 0 "PlaceholderText" "placeholderText" (.text "new")
      placeholderWritten ⟨0⟩ binding attentive cls (.inr (by decide +kernel))
      (.inr (by decide +kernel)) known placeholderShown_alive (resting ⟨0⟩)
      found (watched ▸ List.mem_cons_self) placeholder_write
  rw [evaluations_of found, once] at more
  exact ⟨more, properties, events⟩

/-! The empty name is announced for everything.  A class may register a property
of that name, and a label that has read another property is evaluated when it is
written. -/

/-- A class with a property of the empty name. -/
def signClass : WidgetClass :=
  .define "Sign" [⟨"title", .text⟩, ⟨"", .text⟩] [] [] .passive

/-- The source text of a sign and a label. -/
def signSource : String :=
  "VBox \x7b @sign: Sign \x7b \x7d Label \x7b text := @sign.Title \x7d \x7d"

/-- The world in which they are shown. -/
def signShown : World Unit :=
  (Act.renderSource signSource ⟨⟨0⟩, false, []⟩ ⟨0⟩).perform (Host.silent.deliver 5)
    { divisorStart with registry := Builtin.registry.register signClass }

/-- The world after the property of the empty name was written. -/
def signWritten : World Unit :=
  ((WidgetId.write (Host.silent.deliver 5) ⟨2⟩ "" (.text "new")).run signShown).2

/-! A host that hears of a new text of the label may write to the field at once.
The label is being refreshed then, and keeps the text that the field had before.
-/

/-- A host that writes to a field as soon as it hears of something. -/
def hastyHost : Host Bool where
  respond deliver _ world :=
    if world.host then ((), world)
    else ((), ((WidgetId.write deliver ⟨2⟩ "text" (.text "b")).run
      { world with host := true }).2)

/-- The source text of the field and the label. -/
def echoSource : String :=
  "VBox \x7b @field: LineEdit \x7b \x7d Label \x7b text := @field.Text \x7d \x7d"

/-- The world in which they are shown, and the host listens to the label. -/
def echoShown : World Bool :=
  let start : World Bool :=
    { bags := ⟨#[⟨"Main", [], .none⟩]⟩
      widgets := ⟨#[.ofClass Builtin.control]⟩
      held := [.widget ⟨0⟩]
      host := false }
  ((Act.renderSource echoSource ⟨⟨0⟩, false, []⟩ ⟨0⟩).perform
    (hastyHost.deliver 6) start).updateListenersAt (.inr ⟨3⟩)
    (·.subscribe (.host 0))

/-- The world after the field was written. -/
def echoWritten : World Bool :=
  ((WidgetId.write (hastyHost.deliver 6) ⟨2⟩ "text" (.text "a")).run echoShown).2

theorem signClass_underscored : signClass.Underscored :=
  ⟨by decide +kernel, by decide +kernel⟩

/-- A live property that has read one property only is refreshed by a write of
another, whose name is empty, and one that is being refreshed is not refreshed
by a write of the property that it has read. -/
theorem spellings_are_not_one : signClass.Underscored ∧
    (signShown.widget ⟨2⟩).cls = signClass ∧
    (signShown.binding? ⟨0⟩).map (·.watched) = some [(.widget ⟨2⟩, "Title")] ∧
    signShown.evaluations ⟨0⟩ = 1 ∧ signWritten.evaluations ⟨0⟩ = 2 ∧
    (echoShown.binding? ⟨0⟩).map (·.watched) = some [(.widget ⟨2⟩, "Text")] ∧
    fieldText (echoWritten.widget ⟨2⟩).fields "text" = "b" ∧
    fieldText (echoWritten.widget ⟨3⟩).fields "text" = "a" := by
  refine ⟨signClass_underscored, ?_⟩
  decide +kernel

end World

end LiveMarkup
