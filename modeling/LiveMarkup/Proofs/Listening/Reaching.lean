import LiveMarkup.Proofs.Listening.Answering
import LiveMarkup.Proofs.Listening.Displays

/-!
# How far a refresh reaches

To refresh a live property is to evaluate it once and to give its value to its
widget once.  Other live properties are not evaluated, no other widget is given
anything, and the widget set is asked for nothing else.  That is so when nothing
listens to the widget but the host, which only looks on.
-/

namespace LiveMarkup

variable {σ : Type}

open World (Heeds Attentive Upholds Observed Observing SameState Wired Cuts
  Watches Attends tells)

/-- A live property as it is while others are evaluated.  At most some of its
registrations are cancelled. -/
structure LiveBinding.Idles (binding later : LiveBinding) : Prop where
  same : later = { binding with subscriptions := later.subscriptions }
  subscriptions : later.subscriptions ⊆ binding.subscriptions

theorem LiveBinding.Idles.refl (binding : LiveBinding) : binding.Idles binding :=
  ⟨rfl, List.Subset.refl _⟩

theorem LiveBinding.Idles.trans {binding between later : LiveBinding}
    (left : binding.Idles between) (right : between.Idles later) :
    binding.Idles later where
  same := by
    have same := right.same
    rw [left.same] at same
    exact same
  subscriptions := List.Subset.trans right.subscriptions left.subscriptions

namespace World

variable {world middle after : World σ} {evaluated evaluatedMore : BindingId → Prop}
  {change changeMore : Display → Display}

/-! ## What is touched -/

/-- A live property is among the listeners of some object. -/
def Listens (world : World σ) (id : BindingId) : Prop :=
  ∃ post number generation property,
    (number, PropertyListener.binding id generation property) ∈
    (world.listenersAt post).entries

/-- Only some live properties were evaluated. -/
structure Rouses (evaluated : BindingId → Prop) (world after : World σ) : Prop where
  idle : ∀ id, ¬ evaluated id → ∀ binding, world.binding? id = some binding →
    ∃ later, after.binding? id = some later ∧ binding.Idles later
  listens : ∀ id, after.Listens id → world.Listens id ∨ evaluated id

theorem Rouses.refl (world : World σ) : Rouses evaluated world world where
  idle _ _ binding found := ⟨binding, found, .refl binding⟩
  listens _ listens := .inl listens

theorem Rouses.mono
    (rouses : Rouses evaluated world after)
    (includes : ∀ id, evaluated id → evaluatedMore id) :
    Rouses evaluatedMore world after where
  idle id notMore := rouses.idle id fun was => notMore (includes id was)
  listens id listens := (rouses.listens id listens).imp_right (includes id)

/-- What rouses some live properties in two steps rouses no others. -/
theorem Rouses.trans
    (left : Rouses evaluated world middle)
    (right : Rouses evaluated middle after) :
    Rouses evaluated world after where
  idle id not binding found := by
    obtain ⟨between, foundBetween, idles⟩ := left.idle id not binding found
    obtain ⟨later, foundLater, idlesLater⟩ := right.idle id not between foundBetween
    exact ⟨later, foundLater, idles.trans idlesLater⟩
  listens id listens := (right.listens id listens).elim (left.listens id) .inr

/-- Apart from what it listens to, a live property that was not evaluated is as
it was. -/
theorem Rouses.map_eq {α : Type} {read : LiveBinding → α}
    (rouses : Rouses evaluated world after) (stays : world.Stays after)
    {id : BindingId} (not : ¬ evaluated id)
    (blind :
      ∀ binding subscriptions,
        read { binding with subscriptions } = read binding) :
    (after.binding? id).map read = (world.binding? id).map read := by
  cases found : world.binding? id with
  | some binding =>
    obtain ⟨later, foundLater, idles⟩ := rouses.idle id not binding found
    rw [foundLater, Option.map_some, Option.map_some, idles.same, blind]
  | none =>
    have outside : ¬ id.index < after.bindings.size := fun inside => by
      obtain ⟨binding, here⟩ := Store.get?_of_lt (stays.bindingCount ▸ inside)
      cases found.symm.trans here
    have none : after.binding? id = none := Store.get?_of_not_lt outside
    rw [none]

/-- Who is not evaluated has been evaluated as often as before. -/
theorem Rouses.evaluations_eq
    (rouses : Rouses evaluated world after)
    (stays : world.Stays after) {id : BindingId}
    (not : ¬ evaluated id) :
    after.evaluations id = world.evaluations id := by
  rw [evaluations, evaluations, rouses.map_eq stays not fun _ _ => rfl]

/-- Who is not evaluated has concluded what it had. -/
theorem Rouses.conclusion?_eq
    (rouses : Rouses evaluated world after)
    (stays : world.Stays after) {id : BindingId}
    (not : ¬ evaluated id) :
    after.conclusion? id = world.conclusion? id :=
  rouses.map_eq stays not fun _ _ => rfl

/-- Only some live properties were evaluated, and what is to be seen of the
widgets has changed in a certain way. -/
structure Touches (evaluated : BindingId → Prop) (change : Display → Display)
    (world after : World σ) : Prop extends Rouses evaluated world after where
  display : after.display = change world.display

/-- No live property was evaluated, and nothing is to be seen. -/
abbrev Still (world after : World σ) : Prop :=
  Touches (fun _ => False) id world after

theorem Still.refl (world : World σ) : world.Still world where
  toRouses := .refl world
  display := rfl

theorem Touches.mono
    (touches : Touches evaluated change world after)
    (includes : ∀ id, evaluated id → evaluatedMore id) :
    Touches evaluatedMore change world after where
  toRouses := touches.toRouses.mono includes
  display := touches.display

theorem Touches.trans
    (left : Touches evaluated change world middle)
    (right : Touches evaluated changeMore middle after) :
    Touches evaluated (changeMore ∘ change) world after where
  toRouses := left.toRouses.trans right.toRouses
  display := by
    rw [right.display, left.display]
    rfl

theorem Still.touches (still : world.Still after) :
    Touches evaluated id world after :=
  still.mono fun _ => False.elim

theorem Touches.still
    (touches : Touches evaluated change world middle)
    (still : middle.Still after) :
    Touches evaluated change world after :=
  touches.trans still.touches

theorem Still.before
    (still : world.Still middle)
    (touches : Touches evaluated change middle after) :
    Touches evaluated change world after :=
  still.touches.trans touches

theorem Rouses.listened
    (rouses : Rouses (fun _ => False) world after) {id : BindingId}
    (listens : after.Listens id) :
    world.Listens id :=
  (rouses.listens id listens).resolve_right not_false

theorem listens_of_listenersAt
    (same : ∀ post, after.listenersAt post = world.listenersAt post)
    {id : BindingId} (listens : after.Listens id) : world.Listens id := by
  obtain ⟨post, number, generation, property, entry⟩ := listens
  exact ⟨post, number, generation, property, same post ▸ entry⟩

theorem display_congr
    (looks : ∀ id, (after.widget id).look = (world.widget id).look)
    (journal : after.journal = world.journal) :
    after.display = world.display := by
  rw [display, display, journal, funext looks]

theorem Cuts.still {lost : BindingId → Prop} (cuts : Cuts lost world after) :
    world.Still after where
  idle id _ binding found := by
    obtain ⟨cut, fewer, same⟩ := cuts.bindings id
    exact ⟨_, by rw [same, found]; rfl, rfl, fewer _⟩
  listens id listens := by
    obtain ⟨post, number, generation, property, entry⟩ := listens
    exact .inl ⟨post, number, generation, property, (cuts.fewer post).subset entry⟩
  display := by
    refine display_congr (fun id => ?_) ?_
    · rw [cuts.content.widgets id]
      rfl
    · rw [cuts.rest]

theorem SameState.rouses (same : SameState world after) :
    Rouses evaluated world after where
  idle id _ binding found := by
    refine ⟨binding, ?_, .refl binding⟩
    rw [same]
    exact found
  listens id listens := .inl <| listens_of_listenersAt (fun post => by
    rw [same]
    cases post <;> rfl) listens

theorem SameState.still
    (same : SameState world after)
    (journal : after.journal = world.journal) :
    world.Still after where
  toRouses := same.rouses
  display := by
    refine display_congr (fun id => ?_) journal
    rw [same]
    rfl

theorem touches_updateBinding (world : World σ) (id : BindingId)
    (change : LiveBinding → LiveBinding) :
    Touches (· = id) (·) world (world.updateBinding id change) where
  idle other not binding found := by
    refine ⟨binding, ?_, .refl binding⟩
    rw [binding?_updateBinding, if_neg fun same => not same.symm]
    exact found
  listens _ listens :=
    .inl (listens_of_listenersAt (fun post => by cases post <;> rfl) listens)
  display := rfl

theorem rouses_updateWidget (widget : WidgetId) {change : Widget → Widget}
    (listeners : ∀ old, (change old).listeners = old.listeners) :
    Rouses (fun _ => False) world (world.updateWidget widget change) where
  idle _ _ binding found := ⟨binding, found, .refl binding⟩
  listens _ listens := .inl <|
    listens_of_listenersAt (listenersAt_updateWidget widget listeners) listens

/-- The properties of a widget, or its styles, are changed. -/
theorem touches_updateWidget {widget : WidgetId} {change : Widget → Widget}
    {changeLook : Look → Look} (inside : widget.index < world.widgets.size)
    (listeners : ∀ old, (change old).listeners = old.listeners)
    (same :
      (change (world.widget widget)).look =
        changeLook (world.widget widget).look) :
    Touches (fun _ => False) (·.alter widget changeLook) world
      (world.updateWidget widget change) where
  toRouses := rouses_updateWidget widget listeners
  display := display_updateWidget inside same

theorem touches_record (world : World σ) (call : ToolkitCall) :
    Touches (fun _ => False) (·.ask call) world (world.record call) where
  toRouses := (show SameState world (world.record call) from rfl).rouses
  display := rfl

theorem Attentive.still_release (attentive : Attentive world) (pins : List Owned) :
    world.Still (world.release pins) := by
  have same : SameState world { world with pins } := rfl
  have swept : World.Still { world with pins } (world.release pins) :=
    Cuts.still (same.heeds attentive).attentive.wired.sweeps_sweep
  exact (same.still rfl).trans swept

/-! ## Evaluating -/

theorem Attends.listens {watcher : Option BindingId}
    (attends : Attends watcher world after) (other : BindingId)
    (listens : after.Listens other) :
    world.Listens other ∨ watcher = some other := by
  induction attends with
  | done => exact .inl listens
  | @listen middle id binding object name _ own found has present hypothesis =>
    obtain ⟨post, number, generation, property, entry⟩ := listens
    have entered :
        (number, PropertyListener.binding other generation property) ∈
          ((middle.updateListenersAt (middle.announcer object)
            (·.subscribe (.binding id binding.generation name))).listenersAt
            post).entries := by
      cases post <;> exact entry
    by_cases here : middle.announcer object = post
    · subst here
      rw [listenersAt_updateListenersAt_self present] at entered
      rcases List.mem_append.mp entered with old | new
      · exact hypothesis ⟨_, number, generation, property, old⟩
      · cases List.mem_singleton.mp new
        exact .inr own
    · rw [listenersAt_updateListenersAt_of_ne here] at entered
      exact hypothesis ⟨post, number, generation, property, entered⟩
  | newList values _ hypothesis =>
    exact hypothesis (listens_of_listenersAt
      (fun post => by cases post <;> rfl) listens)
  | newResource path size _ hypothesis =>
    exact hypothesis (listens_of_listenersAt
      (fun post => by cases post <;> rfl) listens)

theorem Watches.touches {watcher : Option BindingId}
    (watches : Watches watcher world after) :
    Touches (watcher = some ·) (·) world after where
  idle other not binding found :=
    ⟨binding, (watches.others other not).trans found, .refl binding⟩
  listens := watches.attends.listens
  display := by
    refine display_congr (fun id => ?_) ?_
    · rw [watches.content.widgets id]
      rfl
    · rw [watches.rest]

/-- To evaluate a live property touches no widget. -/
theorem Attentive.touches_evaluate
    (attentive : Attentive world) {id : BindingId} {binding : LiveBinding}
    (found : world.binding? id = some binding) :
    Touches (· = id) (·) world (id.evaluate.run world).2 := by
  obtain ⟨_, watches, _, _⟩ := attentive.evaluation found
  have cancelled : world.Still (world.cancelBinding id) :=
    Cuts.still (attentive.wired.cuts_cancelBinding id)
  have renewed : Touches (· = id) (·) world (id.renew world) :=
    cancelled.before (touches_updateBinding _ id _)
  have read :
      Touches (· = id) (·) (id.renew world) (world.evaluation id binding).2 :=
    watches.touches.mono fun _ same => (Option.some.inj same).symm
  rw [evaluate_eq found]
  exact (renewed.trans read).trans (touches_updateBinding _ id _)

/-! ## Giving a value to a widget -/

/-- A live property has never read anything but properties of bags and
controllers. -/
def ReadsBags (world : World σ) (id : BindingId) : Prop :=
  ∀ binding, world.binding? id = some binding → ∀ slot ∈ binding.everWatched,
    ∀ widget, slot.1 ≠ .widget widget

theorem Stays.readsBags (stays : world.Stays after) {id : BindingId}
    (reads : after.ReadsBags id) : world.ReadsBags id := by
  intro binding found slot member
  obtain ⟨later, foundLater, continues⟩ := stays.later.bindings id binding found
  exact reads later foundLater slot (continues.everWatched member)

/-- Nobody but the host hears of a widget's properties if live properties have
read none. -/
theorem Attentive.outdated (attentive : Attentive world) (widget : WidgetId)
    (reads : ∀ id, world.Listens id → world.ReadsBags id) {id : BindingId}
    {generation : Nat} {property : String}
    (listens :
      .binding id generation property ∈
        (world.propertyListeners (.widget widget)).toList) :
    ∃ binding,
      world.binding? id = some binding ∧ binding.generation ≠ generation := by
  rw [propertyListeners_eq] at listens
  obtain ⟨entry, member, same⟩ := List.mem_map.mp listens
  have heard : (entry.1, PropertyListener.binding id generation property) ∈
      (world.listenersAt (world.announcer (.widget widget))).entries := by
    rw [← same]
    exact member
  obtain ⟨binding, found, _, current⟩ :=
    attentive.wired.heard _ _ id _ property heard
  refine ⟨binding, found, fun same => ?_⟩
  obtain ⟨object, announced, read⟩ := current same.symm
  have ever := (attentive.wired.watched id binding found _ read).2
  refine reads id ⟨_, _, _, _, heard⟩ binding found _ ever widget ?_
  cases object with
  | widget other => exact congrArg ObjectId.widget (Sum.inr.inj announced)
  | bag other => cases announced
  | handle other => cases announced

end World

/-- A host that looks on is told of a change, and listeners that no longer count
hear nothing. -/
theorem Host.LooksOn.unheard {host : Host σ} (looksOn : host.LooksOn)
    (depth : Nat) (changed : String) {listeners : List PropertyListener}
    {world : World σ} (attentive : Attentive world)
    (outdated :
      ∀ id generation property,
        .binding id generation property ∈ listeners →
        ∃ binding,
          world.binding? id = some binding ∧ binding.generation ≠ generation) :
    world.Still (runEach (host.deliver (depth + 1)) (tells changed listeners)
      world).2 := by
  induction listeners generalizing world with
  | nil => exact .refl world
  | cons listener rest hypothesis =>
    have told :
        Attentive (host.deliver (depth + 1)
          (.property listener changed) world).2 ∧
        world.Still (host.deliver (depth + 1) (.property listener changed)
          world).2 := by
      cases listener with
      | binding id generation property =>
        change Attentive (host.run (host.deliver depth) _ world).2 ∧
          world.Still (host.run (host.deliver depth) _ world).2
        obtain ⟨binding, found, differs⟩ :=
          outdated id generation property List.mem_cons_self
        rw [World.run_binding, found, Option.any_some, beq_false_of_ne differs,
          Bool.and_false]
        exact ⟨attentive, .refl world⟩
      | host number =>
        obtain ⟨state, run⟩ := looksOn (host.deliver depth) number changed world
        change Attentive (host.respond (host.deliver depth) _ world).2 ∧
          world.Still (host.respond (host.deliver depth) _ world).2
        rw [run]
        have same : SameState world { world with host := state } := rfl
        exact ⟨(same.heeds attentive).attentive, same.still rfl⟩
    obtain ⟨attentiveTold, still⟩ := told
    have passed :
        world.Still
          ((host.deliver (depth + 1) (.property listener changed) world).2.unpin
            listener.owns) :=
      still.still (attentiveTold.still_release _)
    refine passed.still (hypothesis (attentiveTold.unpin _).attentive
      fun id generation property member => ?_)
    obtain ⟨binding, found, differs⟩ :=
      outdated id generation property (List.mem_cons_of_mem _ member)
    obtain ⟨later, foundLater, idles⟩ := passed.idle id nofun binding found
    refine ⟨later, foundLater, ?_⟩
    rw [idles.same]
    exact differs

/-- So it is when a property of a widget has changed that no live property has
read. -/
theorem Host.LooksOn.still_notify {host : Host σ} (looksOn : host.LooksOn)
    (depth : Nat) {world : World σ} (attentive : Attentive world)
    (widget : WidgetId) (changed : String)
    (reads : ∀ id, world.Listens id → world.ReadsBags id) :
    world.Still (ObjectId.notify (host.deliver (depth + 1)) (.widget widget)
      changed world).2 := by
  have same :
      SameState world (world.pin
        ((tells changed (world.propertyListeners
          (.widget widget)).toList).flatMap (·.owns world))) :=
    rfl
  exact (same.still rfl).trans
    (looksOn.unheard depth changed (same.heeds attentive).attentive
      fun id generation property => attentive.outdated widget reads)



namespace World

variable {world after : World σ} {widget : WidgetId} {key : String}

/-! ## Giving a value to a widget -/

theorem inside_of_property? {property : PropertySpec}
    (found : (world.widget widget).cls.property? key = some property) :
    widget.index < world.widgets.size := by
  apply Decidable.byContradiction
  intro outside
  rw [widget_of_not_lt outside] at found
  cases found

theorem inside_of_styleKind? {kind : StyleKind}
    (found : (world.widget widget).cls.styleKind? key = some kind) :
    widget.index < world.widgets.size := by
  apply Decidable.byContradiction
  intro outside
  rw [widget_of_not_lt outside] at found
  cases found

/-- A style of a widget is overridden. -/
theorem touches_overrideStyle {kind : StyleKind}
    (found : (world.widget widget).cls.styleKind? key = some kind)
    (value : Value) :
    Touches (fun _ => False)
      (fun display => (display.ask
        (.style widget key kind (world.shown value))).alter widget
        (·.override ⟨key, kind, value⟩)) world
      ((Toolkit.overrideStyle widget key kind value : Action σ Unit)
        world).2 := by
  have asked := touches_record world (.style widget key kind (world.shown value))
  have altered :
      Touches (fun _ => False) (·.alter widget (·.override ⟨key, kind, value⟩))
        (world.record (.style widget key kind (world.shown value)))
        ((Toolkit.overrideStyle widget key kind value : Action σ Unit)
          world).2 := by
    refine touches_updateWidget (inside_of_styleKind? found) (fun old => ?_) ?_
    · dsimp only
      split <;> rfl
    · unfold Widget.look Look.override StyleOverride.put
      dsimp only
      split <;> rfl
  exact asked.trans altered

/-- Styles are overridden up to the first key that the class does not know. -/
theorem Attentive.overrides (attentive : Attentive world) (widget : WidgetId)
    {entries : List (String × Value)}
    (known : Value.EntriesKnown world world.loaded entries) :
    Touches (fun _ => False) (world.overridden widget entries) world
      ((LiveMarkup.applyOverrides widget entries : Attempt σ Unit).run
        world).2 := by
  induction entries generalizing world with
  | nil => exact Still.refl world
  | cons entry rest hypothesis =>
    obtain ⟨key, value⟩ := entry
    unfold LiveMarkup.applyOverrides
    rw [Attempt.bind_run, Attempt.getThe_run]
    dsimp only
    cases found : (world.widget widget).cls.styleKind? key with
    | none =>
      refine ⟨.refl world, ?_⟩
      rw [overridden, found]
      rfl
    | some kind =>
      have observed := attentive.observed_overrideStyle widget key kind value
      have first := touches_overrideStyle found value
      have others :=
        hypothesis observed.heeds.attentive
          (Value.EntriesKnown.mono observed.heeds.fits
            observed.heeds.loaded _ known.2)
      dsimp only
      rw [Attempt.bind_run, Attempt.lift_run]
      refine ⟨first.toRouses.trans others.toRouses, ?_⟩
      rw [others.display, observed.upholds.stays.overridden_eq known.2,
        first.display, overridden, found]

/-- A property is read. -/
theorem Attentive.touches_getProperty
    (attentive : Attentive world) (widget : WidgetId) (key : String) :
    Touches (fun _ => False) (·.ask (.get widget key)) world
      ((Toolkit.getProperty widget key : Attempt σ Value).run world).2 := by
  have noted := attentive.observed_record (.get widget key)
  obtain ⟨reads, _⟩ := watches_readProperty noted.heeds.attentive.sound widget key
  rw [Toolkit.getProperty_run]
  exact (touches_record world (.get widget key)).still (reads.touches.mono nofun)

/-- It reads as what the widget shows. -/
theorem getProperty_outcome (world : World σ) (widget : WidgetId) (key : String) :
    ((Toolkit.getProperty widget key : Attempt σ Value).run world).1 =
      match (world.widget widget).look.holds? (world.widget widget).cls key with
      | none => .error (.propertyNotFound (world.widget widget).cls.name key)
      | some field => .ok (world.readField field).1 := by
  have seen : (world.record (.get widget key)).sees (.widget widget, key) =
      (world.widget widget).look.holds? (world.widget widget).cls key := rfl
  rw [Toolkit.getProperty_run, WidgetId.read, Attempt.bind_run,
    Attempt.lift_run, read_apply, seen]
  cases (world.widget widget).look.holds? (world.widget widget).cls key with
  | none => rfl
  | some field =>
    cases field with
    | settings content => cases content <;> rfl
    | _ => rfl

end World

section

open World

variable {host : Host σ} {world : World σ}

/-- A property of a widget is written that nobody but the host hears of. -/
theorem Host.LooksOn.touches_write (looksOn : host.LooksOn) (depth : Nat)
    (attentive : Attentive world) (widget : WidgetId) (name : String)
    {value : Value} (known : value.Known world world.loaded)
    (reads :
      ∀ id,
        world.Listens id →
        ((widget.write (host.deliver (depth + 1)) name value).run
          world).2.ReadsBags id) :
    Touches (fun _ => False) (world.put widget name value) world
      ((widget.write (host.deliver (depth + 1)) name value).run world).2 := by
  rw [WidgetId.write_run] at reads ⊢
  cases found : (world.widget widget).cls.property? name with
  | none =>
    refine ⟨.refl world, ?_⟩
    rw [put, found]
  | some property =>
    have written := (attentive.observed_assign found known).heeds.attentive
    have assigned : Touches (fun _ => False) (world.put widget name value) world
        (world.updateWidget widget ({ · with
          fields :=
            (world.assignField (world.widget widget).fields property value).1
            })) := by
      have put : world.put widget name value world.display =
            world.display.alter widget fun look =>
              { look with fields :=
                  (world.assignField look.fields property value).1 } := by
        rw [World.put, found]
      have altered : (world.updateWidget widget ({ · with
            fields :=
              (world.assignField (world.widget widget).fields property value).1
              })).display =
          world.display.alter widget fun look =>
            { look with fields :=
              (world.assignField look.fields property value).1 } :=
        display_updateWidget (inside_of_property? found) rfl
      exact ⟨rouses_updateWidget widget fun _ => rfl, altered.trans put.symm⟩
    simp only [found] at reads
    dsimp only
    cases outcome : (world.assignField (world.widget widget).fields property
      value).2 with
    | error error => exact assigned
    | ok =>
      simp only [outcome] at reads
      have notified :=
        (looksOn.observing (depth + 1)).notify written (.widget widget)
          property.name
      refine assigned.still
        (looksOn.still_notify depth written widget property.name
          fun id listens => ?_)
      exact notified.upholds.stays.readsBags (reads id (assigned.listened listens))

/-- The widget set is asked to write a property that nobody but the host hears
of. -/
theorem Host.LooksOn.touches_setProperty (looksOn : host.LooksOn)
    (depth : Nat) (attentive : Attentive world) (widget : WidgetId)
    (name : String) {value : Value} (known : value.Known world world.loaded)
    (reads :
      ∀ id,
        world.Listens id →
        ((Toolkit.setProperty (host.deliver (depth + 1)) widget name value).run
          world).2.ReadsBags id) :
    Touches (fun _ => False) (world.written widget name value) world
      ((Toolkit.setProperty (host.deliver (depth + 1)) widget name value).run
        world).2 := by
  rw [Toolkit.setProperty_run] at reads ⊢
  have noted := attentive.observed_record (.set widget name (world.shown value))
  have recorded := touches_record world (.set widget name (world.shown value))
  have put :=
    looksOn.touches_write depth noted.heeds.attentive widget name
      (noted.heeds.value known) fun id listens =>
        reads id (recorded.listened listens)
  refine ⟨recorded.toRouses.trans put.toRouses, ?_⟩
  rw [put.display, noted.upholds.stays.put_eq attentive.sound known]
  rfl

/-- An object literal is merged into the one that a property of a widget holds. -/
theorem Host.LooksOn.merges (looksOn : host.LooksOn) (depth : Nat)
    (attentive : Attentive world) (widget : WidgetId) (key : String)
    (plain : isStyleKey key = false) {entries : List (String × Value)}
    (known : Value.EntriesKnown world world.loaded entries)
    (reads :
      ∀ id,
        world.Listens id →
        ((applyProperty (host.deliver (depth + 1)) widget key
          (.map entries)).run world).2.ReadsBags id) :
    Touches (fun _ => False) (world.merged widget key entries) world
      ((applyProperty (host.deliver (depth + 1)) widget key (.map entries)).run
        world).2 := by
  have read := attentive.observed_getProperty widget key
  have touches := attentive.touches_getProperty widget key
  have gave := (attentive.getProperty widget key).success
  have outcome := getProperty_outcome world widget key
  have holds : (world.display.looks widget).holds? (world.widget widget).cls key =
    (world.widget widget).look.holds? (world.widget widget).cls key := rfl
  unfold applyProperty at reads ⊢
  rw [if_neg (Bool.eq_false_iff.mp plain)] at reads ⊢
  dsimp only at reads ⊢
  rw [Attempt.bind_run] at reads ⊢
  rcases ran : (Toolkit.getProperty widget key : Attempt σ Value).run world
    with ⟨result, middle⟩
  rw [ran] at read touches reads outcome
  -- whatever is written next is written as if it were written now
  have writes : ∀ instead : List (String × Value),
      Value.EntriesKnown world world.loaded instead →
      (∀ id,
        world.Listens id →
        ((Toolkit.setProperty (host.deliver (depth + 1)) widget key
          (.map instead)).run middle).2.ReadsBags id) →
      Touches (fun _ => False)
        (fun display => world.written widget key (.map instead)
          (display.ask (.get widget key))) world
        ((Toolkit.setProperty (host.deliver (depth + 1)) widget key
          (.map instead)).run middle).2 := by
    intro instead knownInstead reading
    have knownMap : (Value.map instead).Known world world.loaded := knownInstead
    have wrote :=
      looksOn.touches_setProperty depth read.heeds.attentive widget key
        (read.heeds.value knownMap) fun id listens =>
          reading id (touches.listened listens)
    refine ⟨touches.toRouses.trans wrote.toRouses, ?_⟩
    rw [wrote.display, touches.display]
    exact read.upholds.stays.written_eq attentive.sound knownMap key
  cases held : (world.widget widget).look.holds? (world.widget widget).cls key with
  | none =>
    rw [held] at outcome
    cases outcome
    refine ⟨touches.toRouses, ?_⟩
    rw [touches.display, merged, holds, held]
  | some field =>
    rw [held] at outcome
    cases outcome
    dsimp only at reads ⊢
    cases content : (world.readField field).1 with
    | map old =>
      rw [content] at reads
      have knownOld :=
        entriesKnown_of_readField (attentive.sound.holds_known held) content
      have wrote :=
        writes (mergeEntries old entries)
          (Value.entriesKnown_mergeEntries knownOld known) reads
      refine ⟨wrote.toRouses, ?_⟩
      rw [wrote.display, merged, holds, held]
      dsimp only
      rw [content]
    | _ =>
      rw [content] at reads
      have wrote := writes entries known reads
      refine ⟨wrote.toRouses, ?_⟩
      rw [wrote.display, merged, holds, held]
      dsimp only
      rw [content]

/-- A value is given to a property of a widget. -/
theorem Host.LooksOn.gives (looksOn : host.LooksOn) (depth : Nat)
    (attentive : Attentive world) (widget : WidgetId) (key : String)
    {value : Value} (known : value.Known world world.loaded)
    (reads :
      ∀ id,
        world.Listens id →
        ((applyProperty (host.deliver (depth + 1)) widget key value).run
          world).2.ReadsBags id) :
    Touches (fun _ => False) (world.given widget key value) world
      ((applyProperty (host.deliver (depth + 1)) widget key value).run
        world).2 := by
  cases style : isStyleKey key with
  | true =>
    have gives : world.given widget key value = _ := funext fun _ => if_pos style
    unfold applyProperty
    rw [gives, if_pos style]
    cases value with
    | map entries => exact attentive.overrides widget known
    | _ => exact Still.refl world
  | false =>
    have plain : ¬ isStyleKey key = true := Bool.eq_false_iff.mp style
    have gives : world.given widget key value = _ := funext fun _ => if_neg plain
    rw [gives]
    cases value with
    | map entries =>
      exact looksOn.merges depth attentive widget key style known reads
    | _ =>
      unfold applyProperty at reads ⊢
      rw [if_neg plain] at reads ⊢
      exact looksOn.touches_setProperty depth attentive widget key known reads

end

namespace World

variable {world middle after last : World σ} {id : BindingId}
  {binding : LiveBinding}

/-! ## Refreshing -/

/-- What a live property has concluded with a value is given to its widget. -/
theorem presented_of_value {display : Display} {widget : WidgetId}
    {key : String} {value : Value}
    (concluded : world.conclusion? id = some (widget, key, some (.ok value))) :
    world.presented display id = world.given widget key value display := by
  rw [presented, concluded]

/-- If it has failed, nothing is. -/
theorem presented_of_failure {display : Display} {widget : WidgetId}
    {key : String} {error : UiError}
    (concluded : world.conclusion? id = some (widget, key, some (.error error))) :
    world.presented display id = display := by
  rw [presented, concluded]

/-- A live property was evaluated once, and what the evaluation gave was given
once to its widget.  It makes no difference in which later world one looks at
that. -/
structure Renewed (world after : World σ) (id : BindingId)
    (binding : LiveBinding) : Prop where
  rouses : Rouses (· = id) world after
  concluded : ∃ later outcome, after.binding? id = some later ∧
    later.generation = binding.generation + 1 ∧ later.outcome = some outcome
  display : ∀ last,
      after.Upholds last →
      last.conclusion? id = after.conclusion? id →
      after.display = last.presented world.display id

/-- The outcome of an evaluation is kept while nobody is evaluated. -/
theorem Renewed.still
    (renewed : world.Renewed middle id binding)
    (upholds : middle.Upholds after)
    (still : middle.Still after) :
    world.Renewed after id binding where
  rouses := renewed.rouses.trans (still.toRouses.mono fun _ => False.elim)
  concluded := by
    obtain ⟨later, outcome, found, generation, kept⟩ := renewed.concluded
    obtain ⟨last, foundLast, idles⟩ := still.idle id nofun later found
    refine ⟨last, outcome, foundLast, ?_, ?_⟩
    · rw [idles.same]
      exact generation
    · rw [idles.same]
      exact kept
  display last upheld same := by
    have before : after.conclusion? id = middle.conclusion? id :=
      still.conclusion?_eq upholds.stays not_false
    rw [still.display]
    exact renewed.display last (upholds.trans upheld) (same.trans before)

theorem touches_beginRefresh (world : World σ) (id : BindingId)
    (widget : WidgetId) :
    Touches (· = id) (·) world (world.beginRefresh id widget) := by
  have same : SameState world (world.pin [.binding id, .widget widget]) := rfl
  exact (same.still rfl).before (touches_updateBinding _ id _)

theorem touches_endRefresh (world : World σ) (id : BindingId)
    (outcome : Except UiError Unit) :
    Touches (· = id) (·) world (world.endRefresh id outcome) := by
  have unmarked :
      Touches (· = id) (·) world
        (world.updateBinding id ({ · with busy := false })) :=
    touches_updateBinding world id _
  cases outcome with
  | ok => exact unmarked
  | error error =>
    have reported : SameState (world.updateBinding id ({ · with busy := false }))
      (world.endRefresh id (.error error)) := rfl
    exact unmarked.still (reported.still rfl)

theorem binding?_endRefresh (world : World σ) (id : BindingId)
    (outcome : Except UiError Unit) :
    (world.endRefresh id outcome).binding? id =
      (world.binding? id).map ({ · with busy := false }) := by
  rw [World.binding?, endRefresh_bindings]
  change (world.updateBinding id _).binding? id = _
  rw [binding?_updateBinding, if_pos rfl]

/-- A refresh begins and ends beside the evaluation. -/
theorem Renewed.refreshed
    (renewed :
      (world.beginRefresh id binding.widget).Renewed after id
        { binding with busy := true }) (outcome : Except UiError Unit) :
    world.Renewed (after.endRefresh id outcome) id binding where
  rouses := by
    have begins := (touches_beginRefresh world id binding.widget).toRouses
    have ends := (touches_endRefresh after id outcome).toRouses
    exact (begins.trans renewed.rouses).trans ends
  concluded := by
    obtain ⟨later, given, foundLater, generation, kept⟩ := renewed.concluded
    refine ⟨{ later with busy := false }, given, ?_, generation, kept⟩
    rw [binding?_endRefresh, foundLater]
    rfl
  display last upheld same := by
    have before : (after.endRefresh id outcome).conclusion? id =
          after.conclusion? id := by
      rw [conclusion?, conclusion?, binding?_endRefresh, Option.map_map]
      rfl
    have shown :=
      renewed.display last ((upholds_endRefresh after id outcome).trans upheld)
        (same.trans before)
    rw [(touches_endRefresh after id outcome).display, shown,
      (touches_beginRefresh world id binding.widget).display]

end World

section

open World

variable {host : Host σ} {world : World σ} {id : BindingId} {binding : LiveBinding}

theorem give_busy (deliver : Deliver σ) (binding : LiveBinding)
    (id : BindingId) (busy : Bool) :
    LiveBinding.give deliver { binding with busy } id =
      binding.give deliver id :=
  rfl

/-- A live property is evaluated and given to its widget. -/
theorem Host.LooksOn.renewed_give (looksOn : host.LooksOn) (depth : Nat)
    (attentive : Attentive world) (found : world.binding? id = some binding)
    (reads :
      ∀ other,
        world.Listens other ∨ other = id →
        ((binding.give (host.deliver (depth + 1)) id).run world).2.ReadsBags
          other) :
    world.Renewed ((binding.give (host.deliver (depth + 1)) id).run world).2 id
      binding := by
  obtain ⟨watched, everWatched, subscriptions, foundLater⟩ :=
    attentive.binding?_evaluate found
  have observed := attentive.observed_evaluate found
  have known := (attentive.evaluate found).2
  have touches : Touches (· = id) (·) world (id.evaluate.run world).2 :=
    attentive.touches_evaluate found
  rw [LiveBinding.give, Attempt.bind_run] at reads ⊢
  rcases ran : id.evaluate.run world with ⟨outcome, middle⟩
  rw [ran] at observed known foundLater touches reads
  have concluded : middle.conclusion? id =
        some (binding.widget, binding.key, some outcome) := by
    rw [conclusion?, foundLater]
    rfl
  cases outcome with
  | error error =>
    refine ⟨touches.toRouses, ⟨_, _, foundLater, rfl, rfl⟩,
      fun last upheld same => ?_⟩
    rw [presented_of_failure (same.trans concluded)]
    exact touches.display
  | ok value =>
    have applied :=
      (looksOn.observing (depth + 1)).applyProperty observed.heeds.attentive
        binding.widget binding.key (known value rfl)
    have given :=
      looksOn.gives depth observed.heeds.attentive binding.widget binding.key
        (known value rfl) fun other listens =>
          reads other (touches.listens other listens)
    have kept : _ = middle.conclusion? id :=
      given.conclusion?_eq applied.upholds.stays not_false
    obtain ⟨last, foundLast, idles⟩ := given.idle id not_false _ foundLater
    refine ⟨touches.toRouses.trans (given.toRouses.mono fun _ => False.elim),
      ⟨last, .ok value, foundLast, ?_, ?_⟩, fun last upheld same => ?_⟩
    · rw [idles.same]
    · rw [idles.same]
    · have shown : middle.display = world.display := touches.display
      rw [given.display, presented_of_value ((same.trans kept).trans concluded),
        ← shown]
      exact ((applied.upholds.trans upheld).stays.given_eq
        observed.heeds.attentive.sound (known value rfl) binding.key).symm

/-- To refresh a live property that is due is to evaluate it once, and to give
the value to its widget. -/
theorem Host.LooksOn.renewed_refresh
    (looksOn : host.LooksOn) (depth : Nat) (attentive : Attentive world)
    (due : world.refreshable? id = some binding)
    (reads : ∀ other, world.Listens other ∨ other = id →
      (id.refresh (host.deliver (depth + 1)) world).2.ReadsBags other) :
    world.Renewed (id.refresh (host.deliver (depth + 1)) world).2 id binding := by
  obtain ⟨found, _⟩ := refreshable?_eq_some.mp due
  obtain ⟨begun, _, foundBegun⟩ := attentive.beginRefresh found
  have given := (begun.observed_evaluate foundBegun).trans
    ((looksOn.observing (depth + 1)).given begun foundBegun binding)
  have renews := looksOn.renewed_give depth begun foundBegun
  have begins := touches_beginRefresh world id binding.widget
  rw [give_busy] at renews
  rw [refresh_apply due] at reads ⊢
  dsimp only at reads ⊢
  generalize (binding.give (host.deliver (depth + 1)) id).run
    (world.beginRefresh id binding.widget) = ran at given renews reads ⊢
  have ended := (Attentive.endRefresh due given.heeds ran.1).attentive
  have released := ended.upholds_release world.pins
  have stays : ran.2.Stays ((ran.2.endRefresh id ran.1).release world.pins) :=
    (upholds_endRefresh ran.2 id ran.1).stays.trans released.stays
  have renewed := renews fun other listens =>
    stays.readsBags (reads other (listens.elim (begins.listens other) .inr))
  exact (renewed.refreshed ran.1).still released (ended.still_release world.pins)

end

end LiveMarkup
