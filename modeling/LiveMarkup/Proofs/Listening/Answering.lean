import LiveMarkup.Proofs.Listening.Observing

/-!
# Listeners that answer

A live property that hears of a change is evaluated if its widget exists when
its turn comes.  Listeners that were told before it cannot do away with a widget
in the tree of a document, nor with one that is kept by what bags and lists
hold: live properties change nothing but properties of widgets.
-/

namespace LiveMarkup

variable {σ : Type}

open World (Heeds Attentive Upholds Observed Observing tells)

namespace World

variable {world after : World σ} {handle : HandleId} {thing : Owned}

/-! ## What exists -/

/-- A chain of owners leads to what exists on its own if each thing of some kind
exists on its own or has an owner of that kind. -/
theorem existing_of_owners (kind : Owned → Prop)
    (owned : ∀ thing, kind thing → thing ∈ world.roots ∨
      ∃ owner, kind owner ∧ owner ∈ world.everything ∧ thing ∈ world.owns owner)
    (is : kind thing) : world.existing thing = true := by
  have within :
      ∀ length thing, kind thing → world.existsWithin length thing = true := by
    intro length
    induction length with
    | zero => exact fun _ _ => rfl
    | succ length hypothesis =>
      intro thing is
      rw [existsWithin, Bool.or_eq_true]
      rcases owned thing is with root | ⟨owner, isOwner, made, owns⟩
      · exact .inl (List.contains_iff_mem.mpr root)
      · refine .inr (List.any_eq_true.mpr ⟨owner, ?_, hypothesis owner isOwner⟩)
        exact List.mem_filter.mpr
          ⟨List.mem_append_right _ made, List.contains_iff_mem.mpr owns⟩
  exact within _ thing is

/-- What exists whatever the properties of widgets hold, as long as a document
does: it is kept by the host or the environment, or by what bags and lists hold,
or it is part of a document or below such a widget. -/
inductive Anchored (world : World σ) (handle : HandleId) : Owned → Prop where
  | document : Anchored world handle (.handle handle)
  | held {thing : Owned} : thing ∈ world.held → Anchored world handle thing
  | global {thing : Owned} :
      thing ∈ Value.entriesOwn world.globals → Anchored world handle thing
  | top {entry : String × HandleId} : entry ∈ world.topControllers →
    Anchored world handle (.handle entry.2)
  | registered {entry : String × Controller} : entry ∈ world.controllers →
    Anchored world handle (.bag entry.2.state)
  | value {bag : BagId} {thing : Owned} : Anchored world handle (.bag bag) →
    thing ∈ Value.entriesOwn (world.bag bag).values → Anchored world handle thing
  | element {list : ListId} {thing : Owned} : Anchored world handle (.list list) →
    thing ∈ (world.list list).items.flatMap Value.owns → Anchored world handle thing
  | child {parent child : WidgetId} : Anchored world handle (.widget parent) →
    child ∈ (world.widget parent).children → Anchored world handle (.widget child)
  | state {document : HandleId} : Anchored world handle (.handle document) →
    document.index < world.handles.size →
      Anchored world handle (.bag (world.handle document).controller.state)
  | node {document : HandleId} {node : String × WidgetId} :
      Anchored world handle (.handle document) →
      node ∈ (world.handle document).nodes →
      Anchored world handle (.widget node.2)
  | part {document : HandleId} {entry : String × HandleId} :
      Anchored world handle (.handle document) →
      entry ∈ (world.handle document).imports →
      Anchored world handle (.handle entry.2)
  | root {document : HandleId} {root : WidgetId} :
      Anchored world handle (.handle document) →
      (world.handle document).root = some root →
      Anchored world handle (.widget root)

/-! Whatever owns something has been made. -/

/-- A bag is among everything as long as it holds something. -/
theorem mem_everything_bag {bag : BagId}
    (owns : thing ∈ Value.entriesOwn (world.bag bag).values) :
    .bag bag ∈ world.everything := by
  have inside : bag.index < world.bags.size :=
    Decidable.byContradiction fun outside => by
      rw [World.bag, Store.get?_of_not_lt outside] at owns
      cases owns
  exact List.mem_append_left _ (List.mem_append_right _
    (List.mem_map.mpr ⟨bag.index, List.mem_range.mpr inside, rfl⟩))

theorem list_inside {list : ListId}
    (owns : thing ∈ (world.list list).items.flatMap Value.owns) :
    list.index < world.lists.size :=
  Decidable.byContradiction fun outside => by
    rw [World.list, Store.get?_of_not_lt outside] at owns
    cases owns

/-- A widget is as long as it has a child. -/
theorem mem_everything_widget {parent : WidgetId} {child : WidgetId}
    (owns : child ∈ (world.widget parent).children) :
    .widget parent ∈ world.everything := by
  have inside : parent.index < world.widgets.size :=
    Decidable.byContradiction fun outside => by
      rw [World.widget, Store.get?_of_not_lt outside] at owns
      cases owns
  simp only [everything, List.mem_append, List.mem_map]
  exact .inl
    (.inl
      (.inl
        (.inl (.inl (.inl ⟨parent.index, List.mem_range.mpr inside, rfl⟩)))))

theorem mem_everything_binding {id : BindingId} {binding : LiveBinding}
    (found : world.binding? id = some binding) :
    .binding id ∈ world.everything := by
  have inside : id.index < world.bindings.size := Store.lt_size_of_get? found
  simp only [everything, List.mem_append, List.mem_map]
  exact .inl (.inl (.inl (.inr ⟨id.index, List.mem_range.mpr inside, rfl⟩)))

theorem mem_everything_handle {document : HandleId}
    (inside : document.index < world.handles.size) :
    .handle document ∈ world.everything := by
  simp only [everything, List.mem_append, List.mem_map]
  exact .inl
    (.inl
      (.inl
        (.inl (.inl (.inr ⟨document.index, List.mem_range.mpr inside, rfl⟩)))))

theorem handle_inside {document : HandleId}
    (made : world.handle document ≠ default) :
    document.index < world.handles.size :=
  Decidable.byContradiction fun outside => made <| by
    rw [World.handle, Store.get?_of_not_lt outside]
    rfl

/-- What is anchored exists while the document is kept: by a live property of it
that is kept itself. -/
theorem Anchored.existing {id : BindingId} {binding : LiveBinding}
    (found : world.binding? id = some binding)
    (pinned : .binding id ∈ world.pins)
    (anchored : world.Anchored binding.handle thing) :
    world.existing thing = true := by
  refine existing_of_owners (fun thing => world.Anchored binding.handle thing ∨
    thing = .binding id) (fun thing is => ?_) (.inl anchored)
  have rooted : ∀ {thing : Owned}, thing ∈ world.held → thing ∈ world.roots :=
    fun member => by
      simp only [roots, List.mem_append]
      exact .inl (.inl (.inl (.inl member)))
  rcases is with anchored | rfl
  · cases anchored with
    | document =>
      refine .inr ⟨.binding id, .inr rfl, mem_everything_binding found, ?_⟩
      simp only [owns, found]
      exact List.mem_append_left _ List.mem_cons_self
    | held member => exact .inl (rooted member)
    | global member =>
      refine .inl ?_
      simp only [roots, List.mem_append]
      exact .inl (.inl (.inr member))
    | top member => exact .inl (List.mem_append_left _ (List.mem_append_right _
        (List.mem_map_of_mem member)))
    | registered member =>
      exact .inl (List.mem_append_right _ (List.mem_map_of_mem member))
    | value owner member =>
      exact .inr ⟨_, .inl owner, mem_everything_bag member,
        List.mem_append_left _ member⟩
    | element owner member =>
      refine .inr ⟨_, .inl owner, ?_, List.mem_append_left _ member⟩
      exact List.mem_append_right _
        (List.mem_map.mpr ⟨_, List.mem_range.mpr (list_inside member), rfl⟩)
    | child owner member =>
      refine .inr ⟨_, .inl owner, mem_everything_widget member, ?_⟩
      simp only [owns, List.mem_append]
      exact .inl (.inl (.inl (.inl (List.mem_map_of_mem member))))
    | state owner inside =>
      exact .inr ⟨_, .inl owner, mem_everything_handle inside, by simp [owns]⟩
    | node owner member =>
      refine .inr ⟨_, .inl owner,
        mem_everything_handle (handle_inside fun same => ?_), ?_⟩
      · rw [same] at member
        cases member
      · simp only [owns, List.cons_append, List.mem_cons, List.mem_append]
        exact .inr (.inl (.inl (.inl (List.mem_map_of_mem member))))
    | part owner member =>
      refine .inr ⟨_, .inl owner,
        mem_everything_handle (handle_inside fun same => ?_), ?_⟩
      · rw [same] at member
        cases member
      · simp only [owns, List.cons_append, List.mem_cons, List.mem_append]
        exact .inr (.inl (.inl (.inr (List.mem_map_of_mem member))))
    | root owner is =>
      refine .inr ⟨_, .inl owner,
        mem_everything_handle (handle_inside fun same => ?_), ?_⟩
      · rw [same] at is
        cases is
      · simp only [owns, List.cons_append, List.mem_cons, List.mem_append, is]
        exact .inr (.inl (.inr List.mem_cons_self))
  · refine .inl ?_
    simp only [roots, List.mem_append]
    exact .inl (.inl (.inl (.inr pinned)))

/-- What is anchored stays so while everything is upheld. -/
theorem Upholds.anchored (upholds : world.Upholds after)
    (anchored : world.Anchored handle thing) : after.Anchored handle thing := by
  have handles : ∀ document, after.handle document = world.handle document := by
    intro document
    rw [World.handle, World.handle, upholds.stays.handles]
  induction anchored with
  | document => exact .document
  | held member => exact .held (upholds.stays.held ▸ member)
  | global member => exact .global (upholds.stays.later.agrees.globals ▸ member)
  | top member => exact .top (upholds.topControllers ▸ member)
  | registered member => exact .registered (upholds.controllers ▸ member)
  | value _ member owner => exact .value owner (upholds.values _ ▸ member)
  | element _ member owner =>
    refine .element owner ?_
    rw [upholds.stays.later.agrees.items _ (list_inside member)]
    exact member
  | child _ member owner => exact .child owner (upholds.stays.children _ ▸ member)
  | state _ inside owner =>
    rw [← handles]
    exact .state owner (upholds.stays.handles ▸ inside)
  | node _ member owner => exact .node owner (handles _ ▸ member)
  | part _ member owner => exact .part owner (handles _ ▸ member)
  | root _ is owner => exact .root owner (handles _ ▸ is)

/-! ## Evaluations -/

/-- How often a live property has been evaluated. -/
def evaluations (world : World σ) (id : BindingId) : Nat :=
  ((world.binding? id).map (·.generation)).getD 0

variable {id : BindingId} {binding : LiveBinding} {deliver : Deliver σ}

theorem evaluations_of (found : world.binding? id = some binding) :
    world.evaluations id = binding.generation := by
  rw [evaluations, found]
  rfl

theorem evaluations_of_any {generation : Nat}
    (current : (world.binding? id).any (·.generation == generation) = true) :
    world.evaluations id = generation := by
  obtain ⟨binding, found, same⟩ := (Option.any_eq_true ..).mp current
  exact (evaluations_of found).trans (beq_iff_eq.mp same)

/-- A live property is evaluated more often as time goes on. -/
theorem Stays.evaluations_le (stays : world.Stays after) (id : BindingId) :
    world.evaluations id ≤ after.evaluations id := by
  cases found : world.binding? id with
  | none =>
    rw [evaluations, found]
    exact Nat.zero_le _
  | some binding =>
    obtain ⟨later, foundLater, continues⟩ := stays.later.bindings id binding found
    rw [evaluations_of found, evaluations_of foundLater]
    exact continues.generation

/-- What a live property is when the run of its expression is over. -/
theorem Attentive.binding?_evaluation (attentive : Attentive world)
    (found : world.binding? id = some binding) :
    ∃ watched everWatched subscriptions,
      (world.evaluation id binding).2.binding? id = some { binding with
        generation := binding.generation + 1, watched, everWatched,
          subscriptions } := by
  obtain ⟨_, watches, _, _⟩ := attentive.evaluation found
  obtain ⟨later, foundLater, grows⟩ := watches.own id rfl _ (binding?_renew found)
  rw [grows.same] at foundLater
  exact ⟨_, _, _, foundLater⟩

/-- What a live property is when it has been evaluated. -/
theorem Attentive.binding?_evaluate (attentive : Attentive world)
    (found : world.binding? id = some binding) :
    ∃ watched everWatched subscriptions,
      (id.evaluate.run world).2.binding? id = some { binding with
        generation := binding.generation + 1, watched, everWatched, subscriptions
        outcome := some (id.evaluate.run world).1 } := by
  obtain ⟨_, _, _, foundLater⟩ := attentive.binding?_evaluation found
  rw [evaluate_eq found]
  exact ⟨_, _, _, conclude_binding foundLater⟩

theorem Attentive.evaluations_evaluate (attentive : Attentive world)
    (found : world.binding? id = some binding) :
    (id.evaluate.run world).2.evaluations id = binding.generation + 1 := by
  obtain ⟨_, _, _, foundLater⟩ := attentive.binding?_evaluate found
  exact evaluations_of foundLater

/-- To refresh a live property whose widget exists is to evaluate it, unless it
is being refreshed. -/
theorem Observing.refresh_evaluates (observing : Observing deliver)
    (attentive : Attentive world) (due : world.refreshable? id = some binding) :
    binding.generation < (id.refresh deliver world).2.evaluations id := by
  obtain ⟨found, _⟩ := refreshable?_eq_some.mp due
  obtain ⟨begun, _, foundBegun⟩ := attentive.beginRefresh found
  have evaluated := begun.evaluations_evaluate foundBegun
  have given := observing.given begun foundBegun binding
  rw [refresh_apply due]
  dsimp only
  generalize (binding.give deliver id).run
    (world.beginRefresh id binding.widget) = ran at given
  have ended := upholds_endRefresh ran.2 id ran.1
  have attentiveEnd := given.heeds.attentive.updateBinding id (renews_busy false)
  have before : binding.generation < (ran.2.endRefresh id ran.1).evaluations id :=
    Nat.lt_of_lt_of_le (Nat.lt_of_succ_le (Nat.le_of_eq evaluated.symm))
      (Nat.le_trans (given.upholds.stays.evaluations_le id)
        (ended.stays.evaluations_le id))
  have attentiveReported : (ran.2.endRefresh id ran.1).Attentive := by
    cases ran.1 with
    | ok => exact attentiveEnd
    | error error => exact (attentiveEnd.report error).attentive
  exact Nat.lt_of_lt_of_le before
    ((attentiveReported.upholds_release world.pins).stays.evaluations_le id)

/-! ## Answers -/

/-- A live property at work: its record is kept, it has not given up, and its
widget is there whatever properties of widgets hold. -/
structure Alive (world : World σ) (id : BindingId) : Prop where
  recorded : world.Recorded id
  subscribed : ¬ world.Unsubscribed id
  anchored : ∀ binding, world.binding? id = some binding →
    world.Anchored binding.handle (.widget binding.widget)

/-- A live property of a document is at work if its record is there, it listens,
and its widget is anchored. -/
theorem alive_of_shape {widget : WidgetId}
    (shape :
      (world.binding? id).map
        (fun binding => (binding.handle, binding.widget,
          binding.subscriptions.isEmpty)) = some (handle, widget, false))
    (recorded : .binding id ∈ (world.handle handle).subscriptions)
    (anchored : world.Anchored handle (.widget widget)) : world.Alive id := by
  obtain ⟨binding, found, same⟩ := Option.map_eq_some_iff.mp shape
  obtain ⟨rfl, rest⟩ := Prod.mk.inj same
  obtain ⟨rfl, some⟩ := Prod.mk.inj rest
  refine ⟨⟨.handle binding.handle, recorded⟩, ?_, ?_⟩
  · rintro ⟨other, foundOther, none⟩
    cases found.symm.trans foundOther
    rw [none] at some
    cases some
  · intro other foundOther
    cases found.symm.trans foundOther
    exact anchored

theorem Alive.covered (alive : world.Alive id) (attentive : Attentive world) :
    world.Covered id :=
  (attentive.covered id alive.recorded).resolve_left alive.subscribed

/-- A live property that is kept is due when its widget is anchored and it is
not being refreshed. -/
theorem refreshable?_of_anchored (found : world.binding? id = some binding)
    (idle : world.isBusy id = false) (pinned : .binding id ∈ world.pins)
    (anchored : world.Anchored binding.handle (.widget binding.widget)) :
    world.refreshable? id = some binding := by
  rw [isBusy, found] at idle
  exact refreshable?_eq_some.mpr ⟨found, anchored.existing found pinned, idle⟩

end World

open World

variable {world : World σ} {id : BindingId} {binding : LiveBinding}

/-- When all listeners have been told, one that hears of the change has been
evaluated again. -/
theorem Host.LooksOn.answers {host : Host σ} (looksOn : host.LooksOn)
    (depth : Nat) {changed : String} {listeners : List PropertyListener}
    (attentive : Attentive world) {pins : List Owned}
    (pinned :
      world.pins = (tells changed listeners).flatMap (·.owns world) ++ pins)
    {generation : Nat} {property : String}
    (listens : .binding id generation property ∈ listeners)
    (heard : hears property changed = true)
    (found : world.binding? id = some binding)
    (idle : world.isBusy id = false)
    (current : generation ≤ binding.generation)
    (anchored : world.Anchored binding.handle (.widget binding.widget)) :
    generation <
      (runEach (host.deliver (depth + 1)) (tells changed listeners)
        world).2.evaluations id := by
  have observing := looksOn.observing (depth + 1)
  induction listeners generalizing world binding with
  | nil => cases listens
  | cons listener rest hypothesis =>
    rw [tells, List.map_cons, List.flatMap_cons, List.append_assoc] at pinned
    obtain ⟨heeds, upholds, left⟩ :=
      observing.step attentive listener changed pinned
    rw [← tells, owns_tells world _ changed rest] at left
    obtain ⟨_, upholdsRest, _⟩ :=
      observing.runEach changed rest heeds.attentive left
    rcases List.mem_cons.mp listens with rfl | listensRest
    · refine Nat.lt_of_lt_of_le ?_ (upholdsRest.stays.evaluations_le id)
      rcases Nat.lt_or_eq_of_le current with earlier | rfl
      · exact Nat.lt_of_lt_of_le (evaluations_of found ▸ earlier)
          (upholds.stays.evaluations_le id)
      · -- the listener is in force, and its live property is due
        have due := refreshable?_of_anchored found idle
          (pinned ▸ List.mem_append_left _ List.mem_cons_self) anchored
        have told :=
          observing (.binding id binding.generation property) changed
            world attentive
        have evaluated := (looksOn.observing depth).refresh_evaluates attentive due
        have run :
            (host.deliver (depth + 1)
               (.property (.binding id binding.generation property) changed)
               world) = id.refresh (host.deliver depth) world := by
          refine (run_binding host id _ property changed world).trans ?_
          simp [heard, found]
        rw [run] at told ⊢
        exact Nat.lt_of_lt_of_le evaluated
          ((told.heeds.attentive.upholds_release _).stays.evaluations_le id)
    · obtain ⟨later, foundLater, continues⟩ :=
        upholds.stays.later.bindings id binding found
      refine hypothesis heeds.attentive left listensRest foundLater
        ((heeds.busy id).trans idle)
        (Nat.le_trans current continues.generation) ?_
      rw [continues.handle, continues.widget]
      exact upholds.anchored anchored

/-- A live property at work is evaluated again when a change of something that
it has read is announced, unless it is being refreshed at that moment. -/
theorem Host.LooksOn.notify_evaluates {host : Host σ} (looksOn : host.LooksOn)
    (depth : Nat) (attentive : Attentive world)
    (idle : world.isBusy id = false) (alive : world.Alive id)
    (found : world.binding? id = some binding) {slot : ObjectId × String}
    (read : slot ∈ binding.watched) {object : ObjectId}
    (shared : world.announcer slot.1 = world.announcer object)
    {changed : String} (heard : hears slot.2 changed = true) :
    binding.generation <
      (object.notify (host.deliver (depth + 1)) changed world).2.evaluations
        id := by
  obtain ⟨number, entry⟩ := alive.covered attentive binding found slot read
  rw [shared, ← propertyListeners_eq] at entry
  have same :
      SameState world (world.pin
        ((tells changed (world.propertyListeners object).toList).flatMap
          (·.owns world))) :=
    rfl
  exact looksOn.answers depth (same.heeds attentive).attentive rfl
    (List.mem_map_of_mem entry) heard found idle (Nat.le_refl _)
    ((same.upholds rfl rfl).anchored (alive.anchored binding found))

end LiveMarkup
