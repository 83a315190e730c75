import LiveMarkup.Proofs.Listening.Reaching
import LiveMarkup.Proofs.Text.SnakeCase

/-!
# What causes an evaluation

A change may let live properties write to widgets, which is announced in turn,
and so on.  However far that goes, a live property is evaluated only if it has
read what was announced first, or what the widget set was asked to write on the
way.
-/

namespace LiveMarkup

variable {σ : Type}

open World (Heeds Attentive Upholds Observed Observing SameState tells)

/-- Who hears of a name hears of it in its underscored spelling. -/
theorem hears_snakeCase {property name spelling : String}
    (spells : name = spelling ∨ name = Text.snakeCase spelling)
    (heard : hears property name = true) :
    hears property (Text.snakeCase spelling) = true := by
  have same : Text.snakeCase name = Text.snakeCase spelling := by
    rcases spells with rfl | rfl
    · rfl
    · exact Text.snakeCase_snakeCase spelling
  simp only [hears, Bool.or_eq_true, beq_iff_eq, Text.sameKey,
    Text.snakeCase_snakeCase] at heard ⊢
  rcases heard with (empty | rfl) | heard
  · refine .inl (.inl ?_)
    rw [← same, String.isEmpty_iff.mp empty]
    decide +kernel
  · exact .inr same.symm
  · exact .inr (same.symm.trans heard)

namespace World

variable {world middle after : World σ} {id : BindingId} {deliver : Deliver σ}
  {first : BindingId → Prop} {change : Display → Display}

/-! ## Ripples -/

/-- The latest evaluation of a live property has read something that an
announcement is about. -/
def HearsOf (world : World σ) (id : BindingId) (post : BagId ⊕ WidgetId)
    (changed : String) : Prop :=
  ∃ binding, world.binding? id = some binding ∧ ∃ slot ∈ binding.watched,
    world.announcer slot.1 = post ∧ hears slot.2 changed = true

/-- The latest evaluation of a live property has read something that the widget
set was asked to write. -/
def Overhears (world : World σ) (id : BindingId) (calls : List ToolkitCall) :
    Prop :=
  ∃ widget key text, .set widget key text ∈ calls ∧
    world.HearsOf id (.inr widget) (Text.snakeCase key)

theorem Overhears.mono {calls more : List ToolkitCall}
    (subset : calls ⊆ more)
    (overhears : world.Overhears id calls) :
    world.Overhears id more := by
  obtain ⟨widget, key, text, member, hearsOf⟩ := overhears
  exact ⟨widget, key, text, subset member, hearsOf⟩

/-- Apart from the first, the live properties that were evaluated had read
something that the widget set was then asked to write. -/
def Ripples (first : BindingId → Prop) (world after : World σ) : Prop :=
  ∃ calls, after.journal = calls ++ world.journal ∧
    Rouses (fun id => first id ∨ world.Overhears id calls) world after

/-- Only the first were evaluated. -/
theorem Touches.ripples (touches : Touches first change world after)
    (asks :
      ∃ calls, (change world.display).journal = calls ++ world.display.journal) :
    Ripples first world after := by
  obtain ⟨calls, asked⟩ := asks
  exact ⟨calls, (congrArg Display.journal touches.display).trans asked,
    touches.toRouses.mono fun _ => .inl⟩

theorem Still.ripples (still : world.Still after) : Ripples first world after :=
  still.touches.ripples ⟨[], rfl⟩

theorem Ripples.mono {more : BindingId → Prop}
    (ripples : Ripples first world after)
    (includes : ∀ id, first id → more id) :
    Ripples more world after := by
  obtain ⟨calls, journal, rouses⟩ := ripples
  exact ⟨calls, journal, rouses.mono fun id => Or.imp_left (includes id)⟩

/-- A live property that was not evaluated has read what it had. -/
theorem Rouses.hearsOf {evaluated : BindingId → Prop}
    (rouses : Rouses evaluated world middle)
    (stays : world.Stays middle)
    (not : ¬ evaluated id) {post : BagId ⊕ WidgetId} {changed : String}
    (hearsOf : middle.HearsOf id post changed) :
    world.HearsOf id post changed := by
  obtain ⟨later, foundLater, slot, read, announced, heard⟩ := hearsOf
  have same : (middle.binding? id).map LiveBinding.watched =
        (world.binding? id).map LiveBinding.watched :=
    rouses.map_eq stays not fun _ _ => rfl
  rw [foundLater] at same
  obtain ⟨binding, found, watched⟩ := Option.map_eq_some_iff.mp same.symm
  refine ⟨binding, found, slot, watched ▸ read, ?_, heard⟩
  rw [← announced]
  cases slot.1 with
  | handle handle => simp only [announcer, World.handle, stays.handles]
  | _ => rfl

/-- What ripples through two steps in a row ripples through both. -/
theorem Ripples.trans
    (left : Ripples first world middle)
    (stays : world.Stays middle)
    (right : Ripples first middle after) :
    Ripples first world after := by
  obtain ⟨calls, journal, rouses⟩ := left
  obtain ⟨more, journalMore, rousesMore⟩ := right
  have before : ∀ id,
      first id ∨ world.Overhears id calls →
      first id ∨ world.Overhears id (more ++ calls) :=
    fun id => Or.imp_right (.mono (List.subset_append_right more calls))
  have later : ∀ id, first id ∨ middle.Overhears id more →
      first id ∨ world.Overhears id (more ++ calls) := by
    rintro id (is | ⟨widget, key, text, member, hearsOf⟩)
    · exact .inl is
    · -- if it was evaluated before, that is reason enough, and else it had
      -- read the same before
      apply Classical.byContradiction
      intro not
      have idle : ¬ (first id ∨ world.Overhears id calls) :=
        fun was => not (before id was)
      refine not (.inr ⟨widget, key, text, List.mem_append_left _ member, ?_⟩)
      exact rouses.hearsOf stays idle hearsOf
  refine ⟨more ++ calls, ?_, (rouses.mono before).trans (rousesMore.mono later)⟩
  rw [journalMore, journal, List.append_assoc]

/-! ## Announcements -/

/-- A way to tell listeners after which only those live properties have been
evaluated again that were told while they listened, or that had read what was
written on the way. -/
def Rippling (deliver : Deliver σ) : Prop :=
  ∀ listener changed world, Attentive world →
    Ripples (fun id => ∃ property, listener =
      .binding id (world.evaluations id) property ∧
      hears property changed = true) world
    (deliver (.property listener changed) world).2

/-- Callbacks in a row ripple from the live properties that they refresh. -/
theorem Rippling.runEach (rippling : Rippling deliver)
    (observing : Observing deliver) {changed : String}
    (listeners : List PropertyListener) (attentive : Attentive world)
    {pins : List Owned}
    (pinned :
      world.pins = (tells changed listeners).flatMap (·.owns world) ++ pins)
    (listens :
      ∀ id generation property,
        .binding id generation property ∈ listeners →
          generation ≤ world.evaluations id ∧
          (generation = world.evaluations id → hears property changed = true →
           first id)) :
    Ripples first world
      (runEach deliver (tells changed listeners) world).2 := by
  induction listeners generalizing world with
  | nil => exact (Still.refl world).ripples
  | cons listener rest hypothesis =>
    rw [tells, List.map_cons, List.flatMap_cons, List.append_assoc] at pinned
    obtain ⟨heeds, upholds, left⟩ :=
      observing.step attentive listener changed pinned
    rw [← tells, owns_tells world
      ((deliver (.property listener changed) world).2.unpin listener.owns)
      changed rest] at left
    have told := observing listener changed world attentive
    have spread : Ripples first world _ :=
      (rippling listener changed world attentive).mono (by
      rintro id ⟨property, rfl, heard⟩
      exact (listens id _ property List.mem_cons_self).2 rfl heard)
    have others :=
      hypothesis heeds.attentive left fun id generation property member => by
        obtain ⟨below, current⟩ :=
          listens id generation property (List.mem_cons_of_mem _ member)
        have later := upholds.stays.evaluations_le id
        exact ⟨Nat.le_trans below later, fun now heard =>
          current (Nat.le_antisymm below (now ▸ later)) heard⟩
    have released : Ripples first world
        ((deliver (.property listener changed) world).2.unpin listener.owns) :=
      spread.trans told.upholds.stays (told.heeds.attentive.still_release _).ripples
    exact released.trans upholds.stays others

/-- A change is announced. -/
theorem Rippling.notify (rippling : Rippling deliver)
    (observing : Observing deliver) (attentive : Attentive world)
    (object : ObjectId) (changed : String) :
    Ripples (world.HearsOf · (world.announcer object) changed) world
      (object.notify deliver changed world).2 := by
  have same :
      SameState world (world.pin
        ((tells changed (world.propertyListeners object).toList).flatMap
          (·.owns world))) :=
    rfl
  have pinned : world.Still _ := same.still rfl
  refine pinned.ripples.trans (same.upholds rfl rfl).stays
    (rippling.runEach observing (world.propertyListeners object).toList
      (same.heeds attentive).attentive rfl fun id generation property member =>
        ?_)
  rw [propertyListeners_eq] at member
  obtain ⟨entry, inside, is⟩ := List.mem_map.mp member
  have heard : (entry.1, PropertyListener.binding id generation property) ∈
    (world.listenersAt (world.announcer object)).entries := is ▸ inside
  obtain ⟨binding, found, below, current⟩ :=
    attentive.wired.heard _ _ id _ property heard
  have counted :
      (world.pin
        ((tells changed (world.propertyListeners object).toList).flatMap
          (·.owns world))).evaluations id = binding.generation :=
    evaluations_of found
  rw [counted]
  refine ⟨below, fun now hearing => ?_⟩
  obtain ⟨source, announced, read⟩ := current now
  exact ⟨binding, found, (source, property), read, announced, hearing⟩

/-- A property is written.  Nobody is evaluated but who has read it, in any
spelling, and who has read what is written on the way. -/
theorem Rippling.write (rippling : Rippling deliver)
    (observing : Observing deliver) (attentive : Attentive world)
    (widget : WidgetId) (spelling : String) {value : Value}
    (known : value.Known world world.loaded) :
    Ripples (fun id => ∃ property, (world.widget widget).cls.property?
      spelling = some property ∧ world.HearsOf id (.inr widget) property.name)
      world ((widget.write deliver spelling value).run world).2 := by
  rw [WidgetId.write_run]
  cases found : (world.widget widget).cls.property? spelling with
  | none => exact (Still.refl world).ripples
  | some property =>
    have assigned := attentive.observed_assign found known
    have altered : Ripples (fun id => ∃ other, some property = some other ∧
        world.HearsOf id (.inr widget) other.name) world
        (world.updateWidget widget ({ · with
          fields :=
            (world.assignField (world.widget widget).fields property value).1
            })) := by
      refine ⟨[], rfl, Rouses.mono ?_ fun _ => False.elim⟩
      exact rouses_updateWidget widget fun _ => rfl
    dsimp only
    cases outcome : (world.assignField (world.widget widget).fields property
      value).2 with
    | error error => exact altered
    | ok =>
      have notified :=
        rippling.notify observing assigned.heeds.attentive (.widget widget)
          property.name
      exact altered.trans assigned.upholds.stays
        (notified.mono fun id hearsOf => ⟨property, rfl, hearsOf⟩)

/-- What the widget set is asked to write is entered in the journal. -/
theorem Rippling.setProperty (rippling : Rippling deliver)
    (observing : Observing deliver) (attentive : Attentive world)
    (widget : WidgetId) (key : String) {value : Value}
    (known : value.Known world world.loaded) :
    Ripples first world
      ((Toolkit.setProperty deliver widget key value).run world).2 := by
  have noted := attentive.observed_record (.set widget key (world.shown value))
  have recorded := touches_record world (.set widget key (world.shown value))
  obtain ⟨calls, journal, rouses⟩ :=
    rippling.write observing noted.heeds.attentive widget key
      (noted.heeds.value known)
  rw [Toolkit.setProperty_run]
  refine ⟨calls ++ [.set widget key (world.shown value)], ?_,
    (recorded.toRouses.mono fun _ => False.elim).trans (rouses.mono fun id => ?_)⟩
  · rw [journal, List.append_assoc]
    rfl
  · rintro (⟨property, found, binding, foundBinding, slot, read, announced,
      heard⟩ | overhears)
    · have spelled := hears_snakeCase (WidgetClass.property?_spelled found) heard
      exact .inr ⟨widget, key, _, List.mem_append_right _ List.mem_cons_self,
        binding, foundBinding, slot, read, announced, spelled⟩
    · exact .inr (overhears.mono (List.subset_append_left _ _))

/-- To override styles is to ask the widget set for something. -/
theorem journal_overridden (world : World σ) (widget : WidgetId)
    (entries : List (String × Value)) (display : Display) :
    ∃ calls,
      (world.overridden widget entries display).journal =
        calls ++ display.journal := by
  induction entries generalizing display with
  | nil => exact ⟨[], rfl⟩
  | cons entry rest hypothesis =>
    obtain ⟨key, value⟩ := entry
    rw [overridden]
    split
    · exact ⟨[], rfl⟩
    · next kind _ =>
      obtain ⟨calls, journal⟩ :=
        hypothesis
          ((display.ask (.style widget key kind (world.shown value))).alter
            widget (·.override ⟨key, kind, value⟩))
      refine ⟨calls ++ [.style widget key kind (world.shown value)], ?_⟩
      rw [journal, List.append_assoc]
      rfl

/-- To apply a property ripples as far as what it announces is heard. -/
theorem Rippling.applyProperty
    (rippling : Rippling deliver)
    (observing : Observing deliver)
    (attentive : Attentive world) (widget : WidgetId) (key : String) {value : Value}
    (known : value.Known world world.loaded) :
    Ripples first world ((applyProperty deliver widget key value).run world).2 := by
  unfold LiveMarkup.applyProperty
  split
  · cases value with
    | map entries =>
      exact (attentive.overrides widget known).mono (fun _ => False.elim)
        |>.ripples (journal_overridden world widget entries world.display)
    | _ => exact (Still.refl world).ripples
  · cases value with
    | map entries =>
      have read := attentive.observed_getProperty widget key
      have touches := attentive.touches_getProperty widget key
      have gave := (attentive.getProperty widget key).success
      dsimp only
      rw [Attempt.bind_run]
      rcases ran : (Toolkit.getProperty widget key : Attempt σ Value).run world
        with ⟨outcome, middle⟩
      rw [ran] at read touches
      have asked : Ripples first world middle :=
        (touches.mono fun _ => False.elim).ripples ⟨[.get widget key], rfl⟩
      cases outcome with
      | error error => exact asked
      | ok old =>
        have knownOld := (gave old middle ran).2
        have knownNew := read.heeds.value known
        cases old with
        | map entriesOld =>
          exact asked.trans read.upholds.stays
            (rippling.setProperty observing read.heeds.attentive widget key
              (Value.entriesKnown_mergeEntries knownOld knownNew))
        | _ =>
          exact asked.trans read.upholds.stays
            (rippling.setProperty observing read.heeds.attentive widget
              key knownNew)
    | _ => exact rippling.setProperty observing attentive widget key known

/-- A live property is evaluated and given to its widget. -/
theorem Rippling.give
    (rippling : Rippling deliver)
    (observing : Observing deliver)
    (attentive : Attentive world) {begun : LiveBinding}
    (found : world.binding? id = some begun) (binding : LiveBinding) :
    Ripples (· = id) world ((binding.give deliver id).run world).2 := by
  have observed := attentive.observed_evaluate found
  have known := (attentive.evaluate found).2
  have evaluated := (attentive.touches_evaluate found).ripples ⟨[], rfl⟩
  rw [LiveBinding.give, Attempt.bind_run]
  rcases ran : id.evaluate.run world with ⟨outcome, middle⟩
  rw [ran] at observed known evaluated
  cases outcome with
  | error error => exact evaluated
  | ok value =>
    exact evaluated.trans observed.upholds.stays
      (rippling.applyProperty observing observed.heeds.attentive binding.widget
        binding.key (known value rfl))

/-- A refresh ripples from the live property that is refreshed. -/
theorem Rippling.refresh
    (rippling : Rippling deliver)
    (observing : Observing deliver)
    (attentive : Attentive world) (id : BindingId) :
    Ripples (· = id) world (id.refresh deliver world).2 := by
  cases due : world.refreshable? id with
  | none =>
    rcases refresh_idle deliver due with same | same
    · rw [same]
      exact (Still.refl world).ripples
    · rw [same]
      exact (Cuts.still (attentive.wired.cuts_cancelBinding id)).ripples
  | some binding =>
    obtain ⟨found, _⟩ := refreshable?_eq_some.mp due
    obtain ⟨begun, upholds, foundBegun⟩ := attentive.beginRefresh found
    have given :=
      (begun.observed_evaluate foundBegun).trans
        (observing.given begun foundBegun binding)
    have gives := rippling.give observing begun foundBegun binding
    have begins := (touches_beginRefresh world id binding.widget).ripples ⟨[], rfl⟩
    rw [refresh_apply due]
    dsimp only
    generalize (binding.give deliver id).run
      (world.beginRefresh id binding.widget) = ran at given gives ⊢
    have ended := (Attentive.endRefresh due given.heeds ran.1).attentive
    have ends := (touches_endRefresh ran.2 id ran.1).ripples ⟨[], rfl⟩
    have gave := begins.trans upholds.stays gives
    have staysGave := upholds.stays.trans given.upholds.stays
    have closed := gave.trans staysGave ends
    exact closed.trans (staysGave.trans (upholds_endRefresh ran.2 id ran.1).stays)
      (ended.still_release world.pins).ripples

end World

/-- That is how a host tells listeners that itself only looks on, however deeply
callbacks are nested. -/
theorem Host.LooksOn.rippling {host : Host σ} (looksOn : host.LooksOn)
    (depth : Nat) : World.Rippling (host.deliver depth) := by
  induction depth with
  | zero =>
    intro listener changed world _
    have same : SameState world { world with exhausted := true } := rfl
    exact (same.still rfl).ripples
  | succ depth hypothesis =>
    intro listener changed world attentive
    cases listener with
    | binding id generation property =>
      have ran :
          host.deliver (depth + 1)
            (.property (.binding id generation property) changed) world =
            if hears property changed &&
              (world.binding? id).any (·.generation == generation) then
            id.refresh (host.deliver depth) world
          else ((), world) :=
            World.run_binding host id generation property changed world
      rw [ran]
      split
      · next counts =>
        obtain ⟨heard, current⟩ := Bool.and_eq_true_iff.mp counts
        refine (hypothesis.refresh (looksOn.observing depth) attentive id).mono ?_
        rintro other rfl
        exact ⟨property, by rw [World.evaluations_of_any current], heard⟩
      · exact (World.Still.refl world).ripples
    | host number =>
      obtain ⟨state, run⟩ := looksOn (host.deliver depth) number changed world
      have ran : host.deliver (depth + 1) (.property (.host number) changed) world =
        ((), { world with host := state }) := run
      have same : SameState world { world with host := state } := rfl
      rw [ran]
      exact (same.still rfl).ripples

end LiveMarkup
