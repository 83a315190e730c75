import LiveMarkup.Proofs.Bindings.Announcing

/-!
# Setting properties

Setting a property of a bag or a widget is writing it and announcing it. Whether
it fails or not, the live properties are settled at its end.
-/

namespace LiveMarkup

/-- To enter a known value among known ones leaves all of them known. -/
theorem Value.entriesKnown_putEntry {σ : Type} {world : World σ} {limit : Nat}
    {key : String} {value : Value} {entries : List (String × Value)}
    (known : value.Known world limit)
    (all : Value.EntriesKnown world limit entries) :
    Value.EntriesKnown world limit (putEntry key value entries) := by
  rw [Value.entriesKnown_iff] at all ⊢
  intro entry member
  rcases mem_putEntry member with old | rfl
  · exact all entry old
  · exact known

/-- Known entries merged into known ones are known. -/
theorem Value.entriesKnown_mergeEntries {σ : Type} {world : World σ}
    {limit : Nat} {old new : List (String × Value)}
    (knownOld : Value.EntriesKnown world limit old)
    (knownNew : Value.EntriesKnown world limit new) :
    Value.EntriesKnown world limit (mergeEntries old new) := by
  induction new generalizing old with
  | nil => exact knownOld
  | cons entry rest hypothesis =>
    exact hypothesis (Value.entriesKnown_putEntry knownNew.1 knownOld) knownNew.2

namespace World

variable {σ : Type} {world after : World σ} {deliver : Deliver σ} {bound : Nat}
  {roots : List Owned} {stack : List BindingId} {pending : List Callback}

/-! ## Bags -/

theorem writesBag_put {bag : BagId} {name : String} {value : Value}
    (known : value.Known world world.loaded) :
    WritesBag world bag fun old =>
      { old with values := putEntry name value old.values } where
  typeName _ := rfl
  listeners _ := rfl
  known sound := Value.entriesKnown_putEntry known (sound.values bag)

/-- Only who reads the property itself sees the change of a bag. -/
theorem sees_putBag (world : World σ) (bag : BagId) (name : String)
    (value : Value) (slot : ObjectId × String) :
    (world.updateBag bag fun old =>
      { old with values := putEntry name value old.values }).sees slot =
      world.sees slot ∨
    (world.announcer slot.1 = .inl bag ∧ slot.2 = name) := by
  have entry : ∀ (other : BagId) (read : String), (other ≠ bag ∨ read ≠ name) →
      other.get? (world.updateBag bag fun old =>
        { old with values := putEntry name value old.values }) read =
          other.get? world read := by
    intro other read different
    simp only [BagId.get?, bag_updateBag]
    split
    case isTrue here =>
      obtain ⟨rfl, _⟩ := here
      rw [lookup_putEntry, if_neg (different.resolve_left fun apart => apart rfl)]
    case isFalse => rfl
  obtain ⟨object, read⟩ := slot
  cases object with
  | bag other =>
    by_cases same : other = bag ∧ read = name
    · exact .inr ⟨congrArg Sum.inl same.1, same.2⟩
    · refine .inl (congrArg (Option.map Field.value) (entry other read ?_))
      exact Decidable.or_iff_not_not_and_not.mpr fun both =>
        same ⟨Decidable.not_not.mp both.1, Decidable.not_not.mp both.2⟩
  | widget => exact .inl rfl
  | handle handle =>
    by_cases same : (world.handle handle).controller.state = bag ∧ read = name
    · exact .inr ⟨congrArg Sum.inl same.1, same.2⟩
    · refine .inl ?_
      have kept := entry (world.handle handle).controller.state read
        (Decidable.or_iff_not_not_and_not.mpr fun both =>
          same ⟨Decidable.not_not.mp both.1, Decidable.not_not.mp both.2⟩)
      exact congrArg (fun found =>
        (found.or (((world.handle handle).imports.lookup read).map fun child =>
          .object (.handle child))).map Field.value) kept

/-- After a value was put into a bag, all live properties are settled. -/
theorem Serves.set (serves : Serves deliver bound)
    (settled : Settled none roots world [] pending)
    (rooted : world.Rooted roots) (room : world.bindings.size < bound)
    (bag : BagId) (name : String) {value : Value}
    (known : value.Known world world.loaded) :
    Served roots [] pending world (bag.set deliver name value world).2 := by
  have writes : WritesBag world bag fun old =>
      { old with values := putEntry name value old.values } := writesBag_put known
  refine serves.announce (.bag bag) settled rooted room writes.alters.transition
    (stays_updateBag writes) rfl rfl ?_ nofun
  intro slot _ _
  rcases sees_putBag world bag name value slot with same | ⟨announced, same⟩
  · exact .inl same
  · refine .inr ⟨?_, by simp [hears, same]⟩
    refine Eq.trans ?_ announced
    cases slot.1 <;> rfl

/-! ## Widgets -/

theorem property?_mem {cls : WidgetClass} {name : String} {property : PropertySpec}
    (found : cls.property? name = some property) : property ∈ cls.properties :=
  List.mem_of_find?_eq_some (WidgetClass.property?_first found)

/-- To assign a known value to a property that is registered writes the widget
as it may be written. -/
theorem writesWidget_assign {id : WidgetId} {property : PropertySpec}
    {value : Value} (registered : property ∈ (world.widget id).cls.properties)
    (known : value.Known world world.loaded) :
    WritesWidget world id
      ({ · with fields :=
        (world.assignField (world.widget id).fields property value).1 }) where
  cls _ := rfl
  listeners _ := rfl
  known sound :=
    (world.assignField_assigns world.loaded _ property value).known known
      (sound.fields id)
  rows sound entry member texts shape := by
    rcases (world.assignField_assigns world.loaded _ property value).rows entry
      member texts shape with old | ⟨selection, kind⟩
    · exact sound.rows id entry old texts shape
    · exact ⟨property, registered, selection, kind⟩

/-- Who reads a plain property that looks different after an assignment reads
the property that was assigned. -/
theorem sees_assign {id : WidgetId} {property : PropertySpec} {name : String}
    (value : Value)
    (found : (world.widget id).cls.property? name = some property)
    (slot : ObjectId × String) (plain : world.Plain slot) :
    (world.updateWidget id
      ({ · with fields :=
        (world.assignField (world.widget id).fields property value).1 })).sees
      slot = world.sees slot ∨
    (slot.1 = .widget id ∧
     (world.widget id).cls.property? slot.2 = some property) := by
  have assigns :=
    world.assignField_assigns world.loaded (world.widget id).fields
      property value
  obtain ⟨object, read⟩ := slot
  cases object with
  | bag => exact .inl rfl
  | handle => exact .inl rfl
  | widget other =>
    by_cases here : id = other ∧ id.index < world.widgets.size
    · obtain ⟨rfl, inside⟩ := here
      cases reading : (world.widget id).cls.property? read with
      | none =>
        refine .inl ?_
        simp only [sees, widget_updateWidget, inside, and_self, if_true, reading]
        rfl
      | some other =>
        by_cases same : other = property
        · exact .inr ⟨rfl, congrArg some same⟩
        · refine .inl ?_
          have apart : other.name ≠ property.name := fun equal =>
            same (WidgetClass.property?_unique reading found equal)
          have kept :=
            assigns.others (plain.1 property (property?_mem found))
              other.name apart
          simp only [sees, widget_updateWidget, inside, and_self, if_true, reading,
            Option.bind_some]
          exact kept
    · refine .inl ?_
      simp only [sees, widget_updateWidget, if_neg here]

/-- The live property that is refreshed at the moment sets this property of this
widget. -/
def Causes (world : World σ) (stack : List BindingId) (widget : WidgetId)
    (key : String) : Prop :=
  ∀ top, stack.head? = some top → ∃ writing, world.binding? top = some writing ∧
    writing.widget = widget ∧ writing.key = key

theorem Causes.later {widget : WidgetId} {key : String}
    (causes : world.Causes stack widget key) (later : world.Later after) :
    after.Causes stack widget key := by
  intro top first
  obtain ⟨writing, found, rfl, rfl⟩ := causes top first
  obtain ⟨binding, foundLater, continues⟩ := later.bindings top writing found
  exact ⟨binding, foundLater, continues.widget, continues.key⟩

/-- After a property of a widget was written, or the attempt to write it has
failed, all live properties are settled. -/
theorem Serves.write (serves : Serves deliver bound)
    (settled : Settled none roots world stack pending)
    (rooted : world.Rooted roots)
    (room : world.bindings.size < bound + stack.length) {widget : WidgetId}
    {key : String} {value : Value} (causes : world.Causes stack widget key)
    (plain : isStyleKey key = false) (known : value.Known world world.loaded) :
    Served roots stack pending world
      ((widget.write deliver key value).run world).2 := by
  rw [WidgetId.write_run]
  cases found : (world.widget widget).cls.property? key with
  | none => exact ⟨settled, .refl world, rfl⟩
  | some property =>
    have writes := writesWidget_assign (property?_mem found) known
    have stays := stays_updateWidget writes (fun _ => rfl) fun _ => rfl
    have seen :=
      fun slot (plain : world.Plain slot) => sees_assign value found slot plain
    have step := writes.alters.transition
    rcases result : world.assignField (world.widget widget).fields property value
      with ⟨fields, outcome⟩
    rw [result] at writes stays seen step
    simp only [result]
    cases outcome with
    | error error =>
      refine ⟨settled.quiet step ?_ ?_ ?_, stays, rfl⟩
      · intro parent
        rw [stays.children]
        exact List.Subset.refl _
      · exact fun _ block found => ⟨block, found, rfl⟩
      · intro slot has plainAfter
        have plainBefore := step.plain slot has plainAfter
        rcases seen slot plainBefore with same | ⟨own, reads⟩
        · exact same
        · obtain ⟨object, read⟩ := slot
          cases own
          have kind := plainBefore.2 property reads
          have failed :=
            (world.assignField_assigns world.loaded (world.widget widget).fields
              property value).failed kind error
          rw [result] at failed
          have unchanged : fields = (world.widget widget).fields := failed rfl
          simp only [sees, widget_updateWidget, unchanged]
          split <;> rfl
    | ok =>
      refine serves.announce (.widget widget) settled rooted room step stays
        rfl rfl ?_ ?_
      · intro slot has plainAfter
        rcases seen slot (step.plain slot has plainAfter) with same | ⟨own, reads⟩
        · exact .inl same
        · refine .inr ⟨?_, WidgetClass.property?_hears reads⟩
          rw [own]
      · intro top first reader binding read name foundReader announced watched heard
        obtain ⟨writing, foundWriting, rfl, rfl⟩ := causes top first
        have own : read = .widget writing.widget := by
          cases read with
          | bag => cases announced
          | widget other => exact congrArg ObjectId.widget (Sum.inr.inj announced)
          | handle => cases announced
        have everWatched :=
          ((step.wired settled.wired).watched reader binding foundReader
            _ watched).2
        refine ⟨writing, binding, property.name, name, foundWriting,
          foundReader, ?_, own ▸ everWatched, heard⟩
        have cls := widget_project world writing.widget writing.widget
          ({ · with fields }) Widget.cls writes.cls
        rw [written?, plain, if_neg Bool.false_ne_true, cls, found]
        rfl

/-! ## What evaluated values reach -/

/-- Settled live properties remain settled if a step changes nothing that can be
read. -/
theorem Settled.served (settled : Settled none roots world stack pending)
    (stays : world.Stays after) (step : Transition none world after)
    (pins : after.pins = world.pins) (blocks : after.blocks = world.blocks)
    (sees : ∀ slot, after.sees slot = world.sees slot) :
    Served roots stack pending world after := by
  refine ⟨settled.quiet step ?_ ?_ fun slot _ _ => sees slot, stays, pins⟩
  · intro parent
    rw [stays.children]
    exact List.Subset.refl _
  · intro id block found
    simp only [World.block?, blocks] at found
    exact ⟨block, found, rfl⟩

theorem Settled.refl (settled : Settled none roots world stack pending) :
    Served roots stack pending world world :=
  ⟨settled, .refl world, rfl⟩

theorem Settled.record (settled : Settled none roots world stack pending)
    (call : ToolkitCall) :
    Served roots stack pending world (world.record call) :=
  have same : SameState world (world.record call) := rfl
  ⟨settled.sameState same, same.stays rfl, rfl⟩

theorem Settled.noteLife (settled : Settled none roots world stack pending)
    (event : LifeEvent) :
    Served roots stack pending world (world.noteLife event) :=
  have same : SameState world (world.noteLife event) := rfl
  ⟨settled.sameState same, same.stays rfl, rfl⟩

theorem Settled.noteReady (settled : Settled none roots world stack pending)
    (widget : WidgetId) :
    Served roots stack pending world (world.noteReady widget) :=
  have same : SameState world (world.noteReady widget) := rfl
  ⟨settled.sameState same, same.stays rfl, rfl⟩

theorem Settled.reads (settled : Settled none roots world stack pending)
    (watches : Watches none world after) : Served roots stack pending world after :=
  ⟨settled.watches watches, watches.stays, by rw [watches.rest]⟩

/-- Of two attempts in a row each has to leave live properties settled, the
second one only after the first has succeeded. -/
theorem Served.bind {α β : Type} {attempt : Attempt σ α} {next : α → Attempt σ β}
    (first : Served roots stack pending world (attempt.run world).2)
    (second : ∀ result, (attempt.run world).1 = .ok result →
      Served roots stack pending (attempt.run world).2
        ((next result).run (attempt.run world).2).2) :
    Served roots stack pending world ((attempt >>= next).run world).2 := by
  rw [Attempt.bind_run]
  rcases run : attempt.run world with ⟨outcome, middle⟩
  rw [run] at first second
  cases outcome with
  | error => exact first
  | ok result => exact first.trans (second result rfl)

/-- A style override is nothing that expressions read. -/
theorem Settled.overrideStyle
    (settled : Settled none roots world stack pending) (widget : WidgetId)
    (key : String) (kind : StyleKind) (value : Value) :
    Served roots stack pending world
      (widget.overrideStyle key kind value world).2 := by
  change Served roots stack pending world (world.updateWidget widget _)
  have keeps :
      ∀ {β : Type} (project : Widget → β) (old : Widget)
          (first second : Widget),
        project first = project old → project second = project old →
        project (if old.overrides.any (·.key == key) then first else second) =
          project old := by
    intro β project old first second left right
    split
    · exact left
    · exact right
  refine settled.served
    (stays_updateWidget
      (writesWidget_sameFields widget (fun old => ?_) (fun old => ?_) fun old =>
        ?_) (fun old => ?_) fun old => ?_)
    (writesWidget_sameFields widget (fun old => ?_) (fun old => ?_) fun old =>
      ?_).alters.transition rfl rfl fun slot =>
        sees_updateWidget widget (fun old => ?_) (fun old => ?_) slot
  all_goals exact keeps _ old _ _ rfl rfl

/-- Neither is a row of overrides, also if it ends at a key that the class does
not know. -/
theorem Settled.applyOverrides (widget : WidgetId)
    (entries : List (String × Value)) (world : World σ)
    (settled : Settled none roots world stack pending) :
    Served roots stack pending world
      ((applyOverrides widget entries).run world).2 := by
  induction entries generalizing world with
  | nil => exact settled.refl
  | cons entry rest hypothesis =>
    obtain ⟨key, value⟩ := entry
    unfold LiveMarkup.applyOverrides
    rw [Attempt.bind_run, Attempt.getThe_run]
    cases found : (world.widget widget).cls.styleKind? key with
    | none =>
      simp only [found]
      exact settled.refl
    | some kind =>
      simp only [found]
      have noted := settled.record (.style widget key kind (world.shown value))
      have styled := noted.settled.overrideStyle widget key kind value
      exact (noted.trans styled).trans (hypothesis _ styled.settled)

/-- Reading a property changes nothing, but may make a list of rows. -/
theorem watches_readProperty (sound : world.Sound world.loaded)
    (widget : WidgetId) (name : String) :
    Watches none world ((widget.read name).run world).2 ∧
    ∀ value,
      ((widget.read name).run world).1 = .ok value →
      value.Known ((widget.read name).run world).2
        ((widget.read name).run world).2.loaded := by
  unfold WidgetId.read
  rw [Attempt.bind_run, Attempt.lift_run, read_apply]
  cases seen : world.sees (.widget widget, name) with
  | none => exact ⟨.refl none world, nofun⟩
  | some field =>
    have watches := readField_watches none world field
    refine ⟨watches, fun value gave => ?_⟩
    cases gave
    exact Value.Known.mono (.refl _) watches.loaded _
      (readField_known (sound.sees_known seen))

/-- After an evaluated value was given to a property, or the attempt has failed,
all live properties are settled. -/
theorem Serves.applyProperty (serves : Serves deliver bound)
    (settled : Settled none roots world stack pending)
    (rooted : world.Rooted roots)
    (room : world.bindings.size < bound + stack.length) {widget : WidgetId}
    {key : String} {value : Value} (causes : world.Causes stack widget key)
    (known : value.Known world world.loaded) :
    Served roots stack pending world
      ((applyProperty deliver widget key value).run world).2 := by
  have sets : ∀ (middle : World σ) (other : Value), isStyleKey key = false →
      Served roots stack pending world middle → other.Known middle middle.loaded →
        Served roots stack pending middle
          ((Toolkit.setProperty deliver widget key other).run middle).2 := by
    intro middle other plain before knownOther
    have noted := before.settled.record (.set widget key (middle.shown other))
    have run : (Toolkit.setProperty deliver widget key other).run middle =
        (widget.write deliver key other).run
          (middle.record (.set widget key (middle.shown other))) := by
      rw [Toolkit.setProperty, Attempt.bind_run, Attempt.modifyThe_run]
    rw [run]
    have knownLater :=
      Value.Known.mono noted.stays.later.fits noted.stays.later.loaded
        _ knownOther
    refine noted.trans (serves.write noted.settled ?_ ?_ ?_ plain knownLater)
    · exact noted.stays.rooted noted.pins (before.stays.rooted before.pins rooted)
    · rw [noted.stays.bindingCount, before.stays.bindingCount]
      exact room
    · exact (causes.later before.stays.later).later noted.stays.later
  unfold LiveMarkup.applyProperty
  cases style : isStyleKey key with
  | true =>
    cases value with
    | map entries =>
      simp only [if_true]
      exact settled.applyOverrides widget entries world
    | _ =>
      simp only [if_true]
      exact settled.refl
  | false =>
    cases value with
    | map entries =>
      simp only [if_false, Bool.false_eq_true]
      have noted := settled.record (.get widget key)
      obtain ⟨reads, knownOld⟩ :=
        watches_readProperty noted.settled.sound widget key
      have read := noted.trans (noted.settled.reads reads)
      refine Served.bind read fun old gave => ?_
      have knownNew :=
        Value.EntriesKnown.mono read.stays.later.fits
          read.stays.later.loaded _ known
      cases old with
      | map entriesOld =>
        exact sets _ _ style read
          (Value.entriesKnown_mergeEntries (knownOld _ gave) knownNew)
      | _ => exact sets _ _ style read knownNew
    | _ =>
      simp only [if_false, Bool.false_eq_true]
      exact sets world _ style settled.refl known

end World

end LiveMarkup
