import Mathlib.Logic.Function.Basic
import LiveMarkup.Proofs.Bindings.Styles
import LiveMarkup.Proofs.Listening.Observing

/-!
# What widgets show

All that is to be seen of widgets is what their properties hold, which styles
they override, and what the widget set has been asked for.  To give a value to a
property of a widget, without telling anybody, is a function on that.  It
consults the world only for classes and for what values stand for, so that any
world in which everything is upheld will do.
-/

namespace LiveMarkup

variable {σ : Type}

/-! ## Displays -/

/-- What a widget shows: what its properties hold, and the styles that it
overrides. -/
structure Look where
  fields : List (String × Field)
  overrides : List StyleOverride

/-- What a widget shows. -/
def Widget.look (widget : Widget) : Look :=
  ⟨widget.fields, widget.overrides⟩

namespace Look

/-- What a property holds, under any spelling of its name. -/
def holds? (look : Look) (cls : WidgetClass) (key : String) : Option Field :=
  (cls.property? key).bind fun property => look.fields.lookup property.name

/-- A style is overridden. -/
def override (look : Look) (entry : StyleOverride) : Look :=
  { look with overrides := entry.put look.overrides }

end Look

/-- What all widgets show, and what the widget set has been asked for, latest
first. -/
structure Display where
  looks : WidgetId → Look
  journal : List ToolkitCall

namespace Display

/-- The widget set is asked for something. -/
def ask (display : Display) (call : ToolkitCall) : Display :=
  { display with journal := call :: display.journal }

/-- What one widget shows is changed. -/
def alter (display : Display) (widget : WidgetId) (change : Look → Look) :
    Display :=
  { display with
    looks := Function.update display.looks widget
      (change (display.looks widget)) }

variable {display : Display} {widget other : WidgetId} {change : Look → Look}

@[simp]
theorem looks_ask (call : ToolkitCall) : (display.ask call).looks = display.looks :=
  rfl

theorem looks_alter_self :
    (display.alter widget change).looks widget = change (display.looks widget) := by
  exact Function.update_self ..

/-- Other widgets show what they did. -/
theorem looks_alter_of_ne (different : other ≠ widget) :
    (display.alter widget change).looks other = display.looks other := by
  exact Function.update_of_ne different _ _

end Display

namespace World

/-- What is to be seen of the widgets of a world. -/
def display (world : World σ) : Display :=
  ⟨fun id => (world.widget id).look, world.journal⟩

/-! ## Giving a value -/

section Giving

variable (world : World σ) (widget : WidgetId)

/-- A property comes to hold a value, as far as it takes it.  If the class does
not have the property, the widget shows what it did. -/
def put (key : String) (value : Value) (display : Display) : Display :=
  match (world.widget widget).cls.property? key with
  | none => display
  | some property =>
    display.alter widget fun look =>
      { look with fields := (world.assignField look.fields property value).1 }

/-- The widget set is asked to write a value to a property. -/
def written (key : String) (value : Value) (display : Display) : Display :=
  world.put widget key value (display.ask (.set widget key (world.shown value)))

/-- Styles are overridden entry by entry, up to the first key that the class
does not know. -/
def overridden : List (String × Value) → Display → Display
  | [], display => display
  | (key, value) :: rest, display =>
    match (world.widget widget).cls.styleKind? key with
    | none => display
    | some kind =>
      overridden rest
        ((display.ask (.style widget key kind (world.shown value))).alter widget
          (·.override ⟨key, kind, value⟩))

/-- An object literal is merged into the one that the property holds.  If the
widget does not have the property, there is nothing to merge it into, and it is
not written. -/
def merged (key : String) (entries : List (String × Value))
    (display : Display) : Display :=
  let asked := display.ask (.get widget key)
  match (display.looks widget).holds? (world.widget widget).cls key with
  | none => asked
  | some field =>
    match (world.readField field).1 with
    | .map old => world.written widget key (.map (mergeEntries old entries)) asked
    | _ => world.written widget key (.map entries) asked

/-- A value is given to a property.  Only an object literal overrides styles. -/
def given (key : String) (value : Value) (display : Display) : Display :=
  if isStyleKey key then
    match value with
    | .map entries => world.overridden widget entries display
    | _ => display
  else
    match value with
    | .map entries => world.merged widget key entries display
    | value => world.written widget key value display

end Giving

/-- What the latest evaluation of a live property gave, and to what it is to be
given. -/
def conclusion? (world : World σ) (id : BindingId) :
    Option (WidgetId × String × Option (Except UiError Value)) :=
  (world.binding? id).map fun binding =>
    (binding.widget, binding.key, binding.outcome)

/-- What the latest evaluation of a live property gave is given to its widget.
An evaluation that failed gives nothing. -/
def presented (world : World σ) (display : Display) (id : BindingId) : Display :=
  match world.conclusion? id with
  | some (widget, key, some (.ok value)) => world.given widget key value display
  | _ => display

variable {world middle after : World σ} {widget other : WidgetId}
  {display : Display}

/-! ## Other widgets -/

theorem looks_put_of_ne (different : other ≠ widget) (key : String)
    (value : Value) :
    (world.put widget key value display).looks other = display.looks other := by
  rw [put]
  split
  · rfl
  · exact Display.looks_alter_of_ne different

/-- Style overrides of one widget show on no other. -/
theorem looks_overridden_of_ne (different : other ≠ widget)
    (entries : List (String × Value)) :
    (world.overridden widget entries display).looks other =
      display.looks other := by
  induction entries generalizing display with
  | nil => rfl
  | cons entry rest hypothesis =>
    rw [overridden]
    split
    · rfl
    · rw [hypothesis, Display.looks_alter_of_ne different, Display.looks_ask]

/-- Nor do settings that are merged into one. -/
theorem looks_merged_of_ne (different : other ≠ widget) (key : String)
    (entries : List (String × Value)) :
    (world.merged widget key entries display).looks other =
      display.looks other := by
  unfold merged
  dsimp only
  split
  · rfl
  · split <;> exact looks_put_of_ne different ..

/-- A value is given to one widget only. -/
theorem looks_given_of_ne (different : other ≠ widget) (key : String)
    (value : Value) :
    (world.given widget key value display).looks other =
      display.looks other := by
  unfold given
  split
  · cases value with
    | map entries => exact looks_overridden_of_ne different entries
    | _ => rfl
  · cases value with
    | map entries => exact looks_merged_of_ne different key entries
    | _ => exact looks_put_of_ne different ..

/-- A live property gives nothing to widgets other than its own. -/
theorem looks_presented_of_ne {id : BindingId}
    (apart :
      ∀ binding, world.binding? id = some binding → binding.widget ≠ widget) :
    (world.presented display id).looks widget = display.looks widget := by
  unfold presented
  split
  · next target key value concluded =>
    obtain ⟨binding, found, same⟩ := Option.map_eq_some_iff.mp concluded
    have own : binding.widget = target := congrArg Prod.fst same
    exact looks_given_of_ne (own ▸ (apart binding found).symm) key value
  · rfl

/-- Some live properties in turn give nothing to widgets that belong to none of
them. -/
theorem looks_foldl_presented_of_ne {rounds : List BindingId}
    (apart :
      ∀ id ∈ rounds, ∀ binding,
        world.binding? id = some binding → binding.widget ≠ widget) :
    (rounds.foldl world.presented display).looks widget =
      display.looks widget := by
  induction rounds generalizing display with
  | nil => rfl
  | cons id rest hypothesis =>
    rw [List.foldl_cons, hypothesis fun other member =>
      apart other (List.mem_cons_of_mem _ member)]
    exact looks_presented_of_ne (apart id List.mem_cons_self)

/-- Overrides of styles leave properties alone. -/
theorem fields_overridden (entries : List (String × Value)) :
    ((world.overridden widget entries display).looks other).fields =
      (display.looks other).fields := by
  induction entries generalizing display with
  | nil => rfl
  | cons entry rest hypothesis =>
    rw [overridden]
    split
    · rfl
    · rw [hypothesis]
      by_cases here : other = widget
      · subst here
        rw [Display.looks_alter_self, Look.override, Display.looks_ask]
      · rw [Display.looks_alter_of_ne here, Display.looks_ask]

/-- A property comes to hold a value, and the others are left alone.  Rows are
an exception, which may take the selection back. -/
theorem lookup_put_of_ne {key : String} {value : Value} {name : String}
    (apart : ∀ property, (world.widget widget).cls.property? key = some property →
      property.name ≠ name ∧ ∀ selection, property.kind ≠ .rows selection) :
    ((world.put widget key value display).looks other).fields.lookup name =
      (display.looks other).fields.lookup name := by
  rw [put]
  split
  · rfl
  · next property found =>
    obtain ⟨different, notRows⟩ := apart property found
    by_cases here : other = widget
    · subst here
      rw [Display.looks_alter_self]
      exact (world.assignField_assigns world.loaded _ property value).others
        notRows name different.symm
    · rw [Display.looks_alter_of_ne here]

/-- A property shows as before when settings are merged into another one that
takes back no selection. -/
theorem lookup_merged_of_ne {key : String} {entries : List (String × Value)}
    {name : String}
    (apart :
      ∀ property,
        (world.widget widget).cls.property? key = some property →
        property.name ≠ name ∧ ∀ selection, property.kind ≠ .rows selection) :
    ((world.merged widget key entries display).looks other).fields.lookup name =
      (display.looks other).fields.lookup name := by
  unfold merged
  dsimp only
  split
  · rfl
  · split <;> exact lookup_put_of_ne apart

/-- A value is given to a property, and the others are left alone. -/
theorem lookup_given_of_ne {key : String} {value : Value} {name : String}
    (apart : ∀ property, (world.widget widget).cls.property? key = some property →
      property.name ≠ name ∧ ∀ selection, property.kind ≠ .rows selection) :
    ((world.given widget key value display).looks other).fields.lookup name =
      (display.looks other).fields.lookup name := by
  unfold given
  split
  · cases value with
    | map entries => rw [fields_overridden]
    | _ => rfl
  · cases value with
    | map entries => exact lookup_merged_of_ne apart
    | _ => exact lookup_put_of_ne apart

/-- Some live properties in turn leave a property alone that is none of theirs. -/
theorem lookup_foldl_presented_of_ne {rounds : List BindingId} {name : String}
    (apart :
      ∀ id ∈ rounds, ∀ binding,
        world.binding? id = some binding → binding.widget = widget →
        ∀ property,
          (world.widget widget).cls.property? binding.key = some property →
          property.name ≠ name ∧ ∀ selection, property.kind ≠ .rows selection) :
    ((rounds.foldl world.presented display).looks widget).fields.lookup name =
      (display.looks widget).fields.lookup name := by
  induction rounds generalizing display with
  | nil => rfl
  | cons id rest hypothesis =>
    rw [List.foldl_cons, hypothesis fun other member =>
      apart other (List.mem_cons_of_mem _ member)]
    unfold presented
    split
    · next target key value concluded =>
      obtain ⟨binding, found, same⟩ := Option.map_eq_some_iff.mp concluded
      obtain ⟨rfl, rest⟩ := Prod.mk.inj same
      obtain ⟨rfl, _⟩ := Prod.mk.inj rest
      by_cases here : binding.widget = widget
      · subst here
        exact lookup_given_of_ne (apart id List.mem_cons_self binding found rfl)
      · rw [looks_given_of_ne (Ne.symm here)]
    · rfl

/-! ## Changes of worlds -/

theorem display_record (call : ToolkitCall) :
    (world.record call).display = world.display.ask call :=
  rfl

/-- What one widget shows is changed. -/
theorem display_updateWidget {change : Widget → Widget}
    {changeLook : Look → Look} (inside : widget.index < world.widgets.size)
    (same :
      (change (world.widget widget)).look =
        changeLook (world.widget widget).look) :
    (world.updateWidget widget change).display =
      world.display.alter widget changeLook := by
  have looks : ∀ other, ((world.updateWidget widget change).widget other).look =
      (world.display.alter widget changeLook).looks other := by
    intro other
    rw [widget_updateWidget]
    by_cases here : widget = other
    · subst here
      rw [if_pos ⟨rfl, inside⟩, same]
      rw [Display.looks_alter_self]
      rfl
    · rw [if_neg fun both => here both.1,
        Display.looks_alter_of_ne fun is => here is.symm]
      rfl
  exact congrArg (Display.mk · world.journal) (funext looks)

/-! ## Later worlds -/

/-- Widgets keep their classes. -/
theorem Stays.cls_eq (stays : world.Stays after) (widget : WidgetId) :
    (after.widget widget).cls = (world.widget widget).cls := by
  by_cases inside : widget.index < world.widgets.size
  · exact stays.later.agrees.cls widget inside
  · rw [widget_of_not_lt inside, widget_of_not_lt (stays.widgetCount ▸ inside)]

/-- To put a value into a property means the same later on. -/
theorem Stays.put_eq (stays : world.Stays after)
    (sound : world.Sound world.loaded) {value : Value}
    (known : value.Known world world.loaded) (key : String) :
    after.put widget key value display =
      world.put widget key value display := by
  rw [put, put, stays.cls_eq]
  cases (world.widget widget).cls.property? key with
  | none => rfl
  | some property => simp only [stays.later.agrees.assignField sound known]

/-- So it does to write a value. -/
theorem Stays.written_eq (stays : world.Stays after)
    (sound : world.Sound world.loaded) {value : Value}
    (known : value.Known world world.loaded) (key : String) :
    after.written widget key value display =
      world.written widget key value display := by
  rw [written, written, stays.later.agrees.shown_eq known, stays.put_eq sound known]

/-- So it does to override styles. -/
theorem Stays.overridden_eq (stays : world.Stays after)
    {entries : List (String × Value)}
    (known : Value.EntriesKnown world world.loaded entries) :
    after.overridden widget entries display =
      world.overridden widget entries display := by
  induction entries generalizing display with
  | nil => rfl
  | cons entry rest hypothesis =>
    obtain ⟨key, value⟩ := entry
    rw [overridden, overridden, stays.cls_eq, stays.later.agrees.shown_eq known.1]
    cases (world.widget widget).cls.styleKind? key with
    | none => rfl
    | some kind => exact hypothesis known.2

/-- What a widget shows is known. -/
theorem Sound.holds_known {limit : Nat} (sound : world.Sound limit)
    {cls : WidgetClass} {key : String} {field : Field}
    (holds : (world.widget widget).look.holds? cls key = some field) :
    field.Known world limit := by
  obtain ⟨property, _, kept⟩ := Option.bind_eq_some_iff.mp holds
  exact sound.fields widget (property.name, field) (mem_of_lookup kept)

/-- So are the entries of an object literal that a property holds. -/
theorem entriesKnown_of_readField {limit : Nat} {field : Field}
    {old : List (String × Value)} (known : field.Known world limit)
    (reads : (world.readField field).1 = .map old) :
    Value.EntriesKnown world limit old := by
  cases field with
  | value content =>
    cases reads
    exact known
  | rows texts => cases reads
  | settings content =>
    cases content with
    | none => cases reads
    | some settings =>
      cases reads
      exact ⟨trivial, trivial, trivial, trivial, trivial, trivial⟩

/-- So it does to merge an object literal into what the widget shows now. -/
theorem Stays.merged_eq (stays : world.Stays after)
    (sound : world.Sound world.loaded) {entries : List (String × Value)}
    (known : Value.EntriesKnown world world.loaded entries) (key : String) :
    after.merged widget key entries world.display =
      world.merged widget key entries world.display := by
  unfold merged
  rw [stays.cls_eq]
  dsimp only
  split
  · rfl
  · next field holds =>
    have fieldKnown := sound.holds_known holds
    -- the entries of an object literal are known as the object literal is
    have wrote : ∀ instead : List (String × Value),
        Value.EntriesKnown world world.loaded instead →
        after.written widget key (.map instead)
          (world.display.ask (.get widget key)) =
          world.written widget key (.map instead)
            (world.display.ask (.get widget key)) := by
      intro instead knownInstead
      have knownMap : (Value.map instead).Known world world.loaded := knownInstead
      exact stays.written_eq sound knownMap key
    have replaced := wrote entries known
    have merged :=
      fun (old : List (String × Value))
        (knownOld : Value.EntriesKnown world world.loaded old) =>
          wrote (mergeEntries old entries)
            (Value.entriesKnown_mergeEntries knownOld known)
    -- what the property holds is read in the same way, unless it makes a list,
    -- which is not merged
    cases field with
    | rows texts => exact replaced
    | settings content =>
      cases content with
      | none => exact replaced
      | some settings => exact merged _ (entriesKnown_of_readField fieldKnown rfl)
    | value content =>
      cases content with
      | map old => exact merged old fieldKnown
      | _ => exact replaced

/-- And so it does to give a value. -/
theorem Stays.given_eq (stays : world.Stays after)
    (sound : world.Sound world.loaded) {value : Value}
    (known : value.Known world world.loaded) (key : String) :
    after.given widget key value world.display =
      world.given widget key value world.display := by
  unfold given
  split
  · cases value with
    | map entries => exact stays.overridden_eq known
    | _ => rfl
  · cases value with
    | map entries => exact stays.merged_eq sound known key
    | _ => exact stays.written_eq sound known key

end World

end LiveMarkup
