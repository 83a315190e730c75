import LiveMarkup.Proofs.Listening.Sessions
import LiveMarkup.Proofs.Listening.Reaching

/-!
# A change and its readers

When a value of a bag is set, the live properties that have read it are
evaluated, each of them once, and no others.  One may have read it under several
spellings and through several objects, and so hear of the change several times:
the first time renews all that it listens to, so that the other listeners, which
are told as well, no longer count.
-/

namespace LiveMarkup

variable {σ : Type}

open World (Heeds Attentive Upholds Observed Observing SameState Cuts tells)

namespace World

variable {base world middle after : World σ} {bag : BagId} {name : String}
  {rounds : List BindingId} {told : List PropertyListener}

/-! ## Readers -/

/-- A live property whose latest evaluation has read a property, in any
spelling, of an object whose changes a bag announces. -/
def Reads (world : World σ) (bag : BagId) (name : String) (id : BindingId) : Prop :=
  ∃ binding, world.binding? id = some binding ∧ ∃ slot ∈ binding.watched,
    world.announcer slot.1 = .inl bag ∧ Text.snakeCase slot.2 = Text.snakeCase name

/-- Who hears of a name has read it in some spelling. -/
theorem hears_iff_sameKey {property changed : String} (named : changed ≠ "") :
    hears property changed = true ↔
      Text.snakeCase property = Text.snakeCase changed := by
  have some : changed.isEmpty = false := by
    rw [Bool.eq_false_iff]
    exact fun empty => named (String.isEmpty_iff.mp empty)
  simp only [hears, some, Bool.false_or, Bool.or_eq_true, beq_iff_eq, Text.sameKey]
  constructor
  · rintro (same | same)
    · rw [same]
    · exact same.symm
  · exact fun same => .inr same.symm

/-- What has happened when some listeners of a bag have been told of a change:
some live properties were evaluated, each in a round of its own. -/
structure Rounds (base : World σ) (bag : BagId) (name : String)
    (told : List PropertyListener) (rounds : List BindingId) (world : World σ) :
    Prop where
  heeds : base.Heeds world
  upholds : base.Upholds world
  once : rounds.Nodup
  readers : ∀ id ∈ rounds, base.Reads bag name id
  listeners : ∀ id ∈ rounds, base.Listens id
  rouses : Rouses (· ∈ rounds) base world
  concluded : ∀ id ∈ rounds, ∃ binding later outcome,
      base.binding? id = some binding ∧ world.binding? id = some later ∧
      later.generation = binding.generation + 1 ∧ later.outcome = some outcome
  /-- What they gave was given to their widgets, in whichever later world one
  looks at that. -/
  display : ∀ last,
      world.Upholds last →
      (∀ id ∈ rounds, last.conclusion? id = world.conclusion? id) →
      world.display = rounds.foldl last.presented base.display
  /-- A listener that counted and heard of the change was followed, unless the
  widget was gone. -/
  complete : ∀ id generation property, .binding id generation property ∈ told →
    hears property name = true → base.evaluations id = generation →
      id ∈ rounds ∨ world.Unsubscribed id

theorem Rounds.start (attentive : Attentive base) :
    base.Rounds bag name [] [] base where
  heeds := .refl attentive
  upholds := .refl base
  once := List.nodup_nil
  readers _ := nofun
  listeners _ := nofun
  rouses := .refl base
  concluded _ := nofun
  display _ _ _ := rfl
  complete _ _ _ := nofun

/-- Who has given up does not take part any more. -/
theorem Rouses.unsubscribed {evaluated : BindingId → Prop}
    (rouses : Rouses evaluated world after) {id : BindingId}
    (not : ¬ evaluated id)
    (unsubscribed : world.Unsubscribed id) :
    after.Unsubscribed id := by
  obtain ⟨binding, found, none⟩ := unsubscribed
  obtain ⟨later, foundLater, idles⟩ := rouses.idle id not binding found
  exact ⟨later, foundLater, List.subset_nil.mp (none ▸ idles.subscriptions)⟩

/-- Nobody is evaluated. -/
theorem Rounds.still
    (done : base.Rounds bag name told rounds world)
    (heeds : world.Heeds after)
    (upholds : world.Upholds after)
    (still : world.Still after) :
    base.Rounds bag name told rounds after where
  heeds := done.heeds.trans heeds
  upholds := done.upholds.trans upholds
  once := done.once
  readers := done.readers
  listeners := done.listeners
  rouses := done.rouses.trans (still.toRouses.mono fun _ => False.elim)
  concluded id member := by
    obtain ⟨binding, later, outcome, found, foundLater, generation, kept⟩ :=
      done.concluded id member
    obtain ⟨last, foundLast, idles⟩ := still.idle id not_false later foundLater
    refine ⟨binding, last, outcome, found, foundLast, ?_, ?_⟩
    · rw [idles.same]
      exact generation
    · rw [idles.same]
      exact kept
  display last upheld same := by
    rw [still.display]
    refine done.display last (upholds.trans upheld) fun id member =>
      (same id member).trans ?_
    exact still.conclusion?_eq upholds.stays not_false
  complete id generation property member heard current :=
    (done.complete id generation property member heard current).imp_right
      (still.unsubscribed not_false)

/-- Another listener has been told. -/
theorem Rounds.tell (done : base.Rounds bag name told rounds world)
    {listener : PropertyListener}
    (followed :
      ∀ id generation property,
        listener = .binding id generation property →
        hears property name = true → base.evaluations id = generation →
        id ∈ rounds ∨ world.Unsubscribed id) :
    base.Rounds bag name (told ++ [listener]) rounds world :=
  { done with
    complete := fun id generation property member heard current =>
      (List.mem_append.mp member).elim
        (fun before => done.complete id generation property before heard current)
        fun new => followed id generation property
          (List.mem_singleton.mp new).symm heard current }

/-- A live property that has not been evaluated is as it was. -/
theorem Rounds.waiting (done : base.Rounds bag name told rounds world)
    {id : BindingId} (not : id ∉ rounds) {binding : LiveBinding}
    (found : base.binding? id = some binding) :
    ∃ records,
      world.binding? id = some { binding with subscriptions := records } := by
  obtain ⟨later, foundLater, idles⟩ := done.rouses.idle id not binding found
  rw [idles.same] at foundLater
  exact ⟨_, foundLater⟩

theorem Rounds.listened
    (done : base.Rounds bag name told rounds world) {id : BindingId}
    (listens : world.Listens id) :
    base.Listens id :=
  (done.rouses.listens id listens).elim (fun before => before) (done.listeners id)

/-- A live property that has been evaluated has been so once. -/
theorem Rounds.evaluations
    (done : base.Rounds bag name told rounds world) {id : BindingId}
    (member : id ∈ rounds) :
    world.evaluations id = base.evaluations id + 1 := by
  obtain ⟨binding, later, _, found, foundLater, generation, _⟩ :=
    done.concluded id member
  rw [evaluations_of found, evaluations_of foundLater, generation]

/-- Another live property is evaluated. -/
theorem Rounds.round
    (done : base.Rounds bag name told rounds world) {id : BindingId}
    (new : id ∉ rounds)
    (reader : base.Reads bag name id)
    (listens : base.Listens id) {binding : LiveBinding}
    (found : world.binding? id = some binding)
    (heeds : world.Heeds after)
    (upholds : world.Upholds after)
    (renewed : world.Renewed after id binding) :
    base.Rounds bag name told (rounds ++ [id]) after := by
  have ⟨old, foundOld, _⟩ := reader
  obtain ⟨records, same⟩ := done.waiting new foundOld
  cases found.symm.trans same
  have apart : ∀ other ∈ rounds, other ≠ id :=
    fun other member is => new (is ▸ member)
  have kept : ∀ other ∈ rounds, after.conclusion? other = world.conclusion? other :=
    fun other member => renewed.rouses.conclusion?_eq upholds.stays
      (apart other member)
  refine {
    heeds := done.heeds.trans heeds
    upholds := done.upholds.trans upholds
    once := ?_
    readers := fun other member => ?_
    listeners := fun other member => ?_
    rouses := ?_
    concluded := fun other member => ?_
    display := fun last upheld same => ?_
    complete := fun other generation property member heard current => ?_ }
  · exact List.nodup_append.mpr
      ⟨done.once, List.nodup_singleton id, fun other member last is same =>
        apart other member (same.trans (List.mem_singleton.mp is))⟩
  · rcases List.mem_append.mp member with before | now
    · exact done.readers other before
    · cases List.mem_singleton.mp now
      exact reader
  · rcases List.mem_append.mp member with before | now
    · exact done.listeners other before
    · cases List.mem_singleton.mp now
      exact listens
  · have before : Rouses (· ∈ rounds ++ [id]) base world :=
      done.rouses.mono fun _ => List.mem_append_left _
    have now : Rouses (· ∈ rounds ++ [id]) world after :=
      renewed.rouses.mono fun _ is =>
        List.mem_append_right _ (List.mem_singleton.mpr is)
    exact before.trans now
  · rcases List.mem_append.mp member with before | now
    · obtain ⟨first, later, outcome, foundFirst, foundLater, generation,
        concluded⟩ :=
        done.concluded other before
      obtain ⟨last, foundLast, idles⟩ :=
        renewed.rouses.idle other (apart other before) later foundLater
      refine ⟨first, last, outcome, foundFirst, foundLast, ?_, ?_⟩
      · rw [idles.same]
        exact generation
      · rw [idles.same]
        exact concluded
    · cases List.mem_singleton.mp now
      obtain ⟨later, outcome, foundLater, generation, concluded⟩ :=
        renewed.concluded
      exact ⟨old, later, outcome, foundOld, foundLater, generation, concluded⟩
  · have own := same id (List.mem_append_right _ List.mem_cons_self)
    have others :
        ∀ other ∈ rounds, last.conclusion? other = world.conclusion? other :=
      fun other member => (same other (List.mem_append_left _ member)).trans
        (kept other member)
    rw [List.foldl_append, ← done.display last (upholds.trans upheld) others]
    exact renewed.display last upheld own
  · by_cases same : other = id
    · subst same
      exact .inl (List.mem_append_right _ List.mem_cons_self)
    · exact (done.complete other generation property member heard current).imp
        (List.mem_append_left _) (renewed.rouses.unsubscribed same)

/-- To refresh a live property whose widget is gone is to let it give up. -/
theorem refresh_gone (deliver : Deliver σ) {id : BindingId}
    {binding : LiveBinding} (found : world.binding? id = some binding)
    (idle : binding.busy = false) (due : world.refreshable? id = none) :
    (id.refresh deliver world).2 = world.cancelBinding id := by
  have gone : world.existing (.widget binding.widget) = false := by
    simpa [refreshable?, found, Option.filter, idle] using due
  unfold BindingId.refresh
  rw [Action.bind_apply, Action.get_apply]
  simp only [found, existingWidget?, gone, Bool.false_eq_true, if_false]
  rfl

end World

section

open World

variable {host : Host σ} {base world : World σ} {bag : BagId} {name : String}
  {rounds : List BindingId} {told : List PropertyListener}

/-- A live property that counts among those that are told is evaluated, unless
its widget is gone. -/
theorem Host.LooksOn.refresh_round (looksOn : host.LooksOn) (depth : Nat)
    (done : base.Rounds bag name told rounds world) {id : BindingId}
    (new : id ∉ rounds) (reader : base.Reads bag name id)
    (resting : base.Resting) (listens : base.Listens id)
    (reads :
      ∀ other,
        base.Listens other →
        (id.refresh (host.deliver (depth + 1)) world).2.ReadsBags other) :
    ∃ more,
      base.Rounds bag name told (rounds ++ more)
        (id.refresh (host.deliver (depth + 1)) world).2 ∧
      (id ∈ rounds ++ more ∨
       (id.refresh (host.deliver (depth + 1)) world).2.Unsubscribed id) := by
  have ⟨old, foundOld, _⟩ := reader
  obtain ⟨records, found⟩ := done.waiting new foundOld
  have observed := (looksOn.observing (depth + 1)).refresh done.heeds.attentive id
  cases due : world.refreshable? id with
  | none =>
    have idle : old.busy = false := by
      have rests := resting id
      rwa [isBusy, foundOld] at rests
    have gone := refresh_gone (host.deliver (depth + 1)) found idle due
    rw [gone] at observed ⊢
    refine ⟨[], ?_, .inr ⟨_, binding?_cancelBinding found, rfl⟩⟩
    rw [List.append_nil]
    exact done.still observed.heeds observed.upholds
      (Cuts.still (done.heeds.attentive.wired.cuts_cancelBinding id))
  | some binding =>
    have renewed :=
      looksOn.renewed_refresh depth done.heeds.attentive due fun other is =>
        reads other (is.elim done.listened fun same => same ▸ listens)
    have further :=
      done.round new reader listens (refreshable?_eq_some.mp due).1
        observed.heeds observed.upholds renewed
    exact ⟨[id], further, .inl (List.mem_append_right _ List.mem_cons_self)⟩

/-- One listener of a bag is told of a change. -/
theorem Host.LooksOn.tell_round (looksOn : host.LooksOn) (depth : Nat)
    (attentive : Attentive base) (resting : base.Resting) (named : name ≠ "")
    (done : base.Rounds bag name told rounds world)
    {listener : PropertyListener}
    (listens : listener ∈ (base.bag bag).listeners.toList)
    (reads :
      ∀ id,
        base.Listens id →
        (host.deliver (depth + 2) (.property listener name) world).2.ReadsBags
          id) :
    ∃ more,
      base.Rounds bag name (told ++ [listener]) (rounds ++ more)
        (host.deliver (depth + 2) (.property listener name) world).2 := by
  cases listener with
  | host number =>
    obtain ⟨state, run⟩ := looksOn (host.deliver (depth + 1)) number name world
    have same : SameState world { world with host := state } := rfl
    have ran : host.deliver (depth + 2) (.property (.host number) name) world =
      ((), { world with host := state }) := run
    refine ⟨[], ?_⟩
    rw [ran, List.append_nil]
    have further :=
      done.still (same.heeds done.heeds.attentive) (same.upholds rfl rfl)
        (same.still rfl)
    exact further.tell fun _ _ _ is => nomatch is
  | binding id generation property =>
    obtain ⟨entry, member, same⟩ := List.mem_map.mp listens
    have heard : (entry.1, PropertyListener.binding id generation property) ∈
        (base.listenersAt (.inl bag)).entries := same ▸ member
    obtain ⟨old, foundOld, below, current⟩ :=
      attentive.wired.heard _ _ id _ property heard
    have ran :
        host.deliver (depth + 2)
          (.property (.binding id generation property) name) world =
          if hears property name &&
            (world.binding? id).any (·.generation == generation) then
          id.refresh (host.deliver (depth + 1)) world
        else ((), world) := run_binding host id generation property name world
    rw [ran] at reads ⊢
    by_cases counts :
        (hears property name &&
           (world.binding? id).any (·.generation == generation)) = true
    · -- the listener is in force now, so it was before, and its live property
      -- has not had its round
      rw [if_pos counts] at reads ⊢
      obtain ⟨hearsName, inForce⟩ := Bool.and_eq_true_iff.mp counts
      have now : world.evaluations id = generation := evaluations_of_any inForce
      have new : id ∉ rounds := fun had => by
        have later := done.evaluations had
        rw [now, evaluations_of foundOld] at later
        exact absurd below (later ▸ Nat.not_succ_le_self _)
      obtain ⟨records, found⟩ := done.waiting new foundOld
      have kept := evaluations_of found
      obtain ⟨object, announced, read⟩ := current (now.symm.trans kept)
      obtain ⟨more, further, ended⟩ :=
        looksOn.refresh_round depth done new
          ⟨old, foundOld, (object, property), read, announced,
            (hears_iff_sameKey named).mp hearsName⟩ resting
          ⟨_, _, _, _, heard⟩ reads
      exact ⟨more, further.tell fun _ _ _ is _ _ => by cases is; exact ended⟩
    · rw [if_neg counts]
      refine ⟨[], ?_⟩
      rw [List.append_nil]
      refine done.tell fun other _ _ is hearsName now => ?_
      cases is
      refine .inl (Decidable.byContradiction fun new => counts ?_)
      obtain ⟨records, found⟩ := done.waiting new foundOld
      rw [evaluations_of foundOld] at now
      simp [hearsName, found, now]

/-- All listeners of a bag are told of a change, one after the other. -/
theorem Host.LooksOn.tell_rounds (looksOn : host.LooksOn) (depth : Nat)
    (attentive : Attentive base) (resting : base.Resting) (named : name ≠ "")
    (listeners : List PropertyListener)
    (done : base.Rounds bag name told rounds world) {pins : List Owned}
    (pinned :
      world.pins = (tells name listeners).flatMap (·.owns world) ++ pins)
    (listens :
      ∀ listener ∈ listeners, listener ∈ (base.bag bag).listeners.toList)
    (reads :
      ∀ id,
        base.Listens id →
        (runEach (host.deliver (depth + 2)) (tells name listeners)
          world).2.ReadsBags id) :
    ∃ more,
      base.Rounds bag name (told ++ listeners) (rounds ++ more)
        (runEach (host.deliver (depth + 2)) (tells name listeners)
          world).2 := by
  have observing := looksOn.observing (depth + 2)
  induction listeners generalizing world told rounds with
  | nil =>
    refine ⟨[], ?_⟩
    rw [List.append_nil, List.append_nil]
    exact done
  | cons listener rest hypothesis =>
    rw [tells, List.map_cons, List.flatMap_cons, List.append_assoc] at pinned
    obtain ⟨heeds, upholds, left⟩ :=
      observing.step done.heeds.attentive listener name pinned
    rw [← tells, owns_tells world _ name rest] at left
    obtain ⟨_, upheld, _⟩ := observing.runEach name rest heeds.attentive left
    have observed := observing listener name world done.heeds.attentive
    have swept := observed.heeds.attentive.unpin listener.owns
    have cut :
        World.Upholds _
          ((host.deliver (depth + 2) (.property listener name) world).2.unpin
            listener.owns) :=
      observed.heeds.attentive.upholds_release _
    obtain ⟨first, toldFirst⟩ :=
      looksOn.tell_round depth attentive resting named done
        (listens listener List.mem_cons_self) fun id listening =>
          (cut.stays.trans upheld.stays).readsBags (reads id listening)
    have passed :=
      toldFirst.still swept cut (observed.heeds.attentive.still_release _)
    obtain ⟨others, toldRest⟩ := hypothesis passed left
      (fun other member => listens other (List.mem_cons_of_mem _ member)) reads
    refine ⟨first ++ others, ?_⟩
    rw [List.append_assoc, List.append_assoc, List.singleton_append] at toldRest
    exact toldRest

/-- A change of a bag is announced while what hears of it is kept in existence. -/
theorem Host.LooksOn.notify_rounds (looksOn : host.LooksOn) (depth : Nat)
    (attentive : Attentive world) (resting : world.Resting) (bag : BagId)
    (named : name ≠ "")
    (reads :
      ∀ id,
        world.Listens id →
        (ObjectId.notify (host.deliver (depth + 2)) (.bag bag) name
          world).2.ReadsBags id) :
    ∃ things rounds,
      (world.pin things).Rounds bag name (world.bag bag).listeners.toList rounds
        (ObjectId.notify (host.deliver (depth + 2)) (.bag bag) name
          world).2 := by
  generalize listing :
      (tells name (world.bag bag).listeners.toList).flatMap (·.owns world) =
        things
  have same : SameState world (world.pin things) := rfl
  have pinned : (world.pin things).Attentive := (same.heeds attentive).attentive
  have listened : ∀ id, (world.pin things).Listens id → world.Listens id := by
    intro id listens
    exact (same.still rfl).listened listens
  have run : ObjectId.notify (host.deliver (depth + 2)) (.bag bag) name world =
        runEach (host.deliver (depth + 2))
          (tells name (world.bag bag).listeners.toList) (world.pin things) := by
    rw [← listing]
    rfl
  rw [run] at reads ⊢
  obtain ⟨rounds, done⟩ := looksOn.tell_rounds depth pinned resting named
    (world.bag bag).listeners.toList (.start pinned) (by rw [← listing]; rfl)
      (fun _ member => member)
    fun id listens => reads id (listened id listens)
  exact ⟨things, rounds, done⟩

end

namespace World

/-! ## Setting a value -/

/-- The world in which a value of a bag is another. -/
def putValue (world : World σ) (bag : BagId) (name : String) (value : Value) :
    World σ :=
  world.updateBag bag fun old =>
    { old with values := putEntry name value old.values }

/-- What follows when a value of a bag was set: some live properties were
evaluated, each in a round of its own, and what they gave was given to their
widgets. -/
structure Refreshes (world : World σ) (bag : BagId) (name : String) (value : Value)
    (rounds : List BindingId) (after : World σ) : Prop where
  once : rounds.Nodup
  readers : ∀ id ∈ rounds, world.Reads bag name id
  all : ∀ id,
      (world.putValue bag name value).Alive id → world.Reads bag name id →
      id ∈ rounds
  /-- Also if its widget is kept in another way, one that was listening either
  had its round, or it has given up because the widget was gone. -/
  gone : ∀ id,
      world.Recorded id → ¬ world.Unsubscribed id → world.Reads bag name id →
      id ∈ rounds ∨ after.Unsubscribed id
  evaluations : ∀ id, after.evaluations id = world.evaluations id + rounds.count id
  concluded : ∀ id ∈ rounds, ∃ binding outcome, after.binding? id = some binding ∧
    binding.outcome = some outcome
  /-- All that is to be seen of any widget, and all that the widget set was
  asked for, is what comes of giving their values to the live properties that
  had a round, once each and in turn. -/
  display : after.display = rounds.foldl after.presented world.display
  widgetCount : after.widgets.size = world.widgets.size
  /-- Widgets that belong to none of them show what they did. -/
  widgets : ∀ widget,
      (∀ id ∈ rounds, ∀ binding,
        after.binding? id = some binding → binding.widget ≠ widget) →
      (after.widget widget).look = (world.widget widget).look
  /-- So do properties that are none of theirs.  Rows may take the selection
  back. -/
  properties : ∀ widget name,
      (∀ id ∈ rounds, ∀ binding,
        after.binding? id = some binding → binding.widget = widget →
        ∀ property,
          (after.widget widget).cls.property? binding.key = some property →
          property.name ≠ name ∧ ∀ selection, property.kind ≠ .rows selection) →
      (after.widget widget).fields.lookup name =
        (world.widget widget).fields.lookup name

variable {base world after : World σ} {bag : BagId} {name : String} {value : Value}
  {rounds : List BindingId} {told : List PropertyListener}

theorem Rounds.evaluations_eq (done : base.Rounds bag name told rounds world)
    (id : BindingId) :
    world.evaluations id = base.evaluations id + rounds.count id := by
  by_cases member : id ∈ rounds
  · rw [List.count_eq_one_of_mem done.once member]
    exact done.evaluations member
  · rw [List.count_eq_zero_of_not_mem member]
    exact done.rouses.evaluations_eq done.upholds.stays member

/-- A world in which bags may hold something else. -/
structure Writes (world written : World σ) : Prop where
  bindings : ∀ id, written.binding? id = world.binding? id
  widgets : written.widgets = world.widgets
  journal : written.journal = world.journal
  announcer : ∀ object, written.announcer object = world.announcer object

theorem listenersAt_putValue (world : World σ) (bag : BagId) (name : String)
    (value : Value) (post : BagId ⊕ WidgetId) :
    (world.putValue bag name value).listenersAt post =
      world.listenersAt post := by
  rw [putValue, listenersAt_updateBag]
  exact fun _ => rfl

theorem writes_putValue (world : World σ) (bag : BagId) (name : String)
    (value : Value) (things : List Owned) :
    world.Writes ((world.putValue bag name value).pin things) where
  bindings _ := rfl
  widgets := rfl
  journal := rfl
  announcer object := by cases object <;> rfl

/-- The live property of the root of a document is at work whatever a bag holds. -/
theorem alive_putValue {id : BindingId} {handle : HandleId} {root : WidgetId}
    (shape :
      (world.binding? id).map
        (fun binding => (binding.handle, binding.widget,
          binding.subscriptions.isEmpty)) = some (handle, root, false))
    (recorded : .binding id ∈ (world.handle handle).subscriptions)
    (shown : (world.handle handle).root = some root) :
    (world.putValue bag name value).Alive id :=
  alive_of_shape shape recorded (.root .document shown)

theorem Writes.reads {written : World σ} (writes : world.Writes written)
    {id : BindingId} : written.Reads bag name id ↔ world.Reads bag name id := by
  simp only [Reads, writes.bindings, writes.announcer]

theorem Writes.evaluations {written : World σ} (writes : world.Writes written)
    (id : BindingId) : written.evaluations id = world.evaluations id := by
  simp only [World.evaluations, writes.bindings]

theorem Writes.display {written : World σ} (writes : world.Writes written) :
    written.display = world.display := by
  refine display_congr (fun id => ?_) writes.journal
  rw [World.widget, World.widget, writes.widgets]

/-- What the rounds of the listeners of a bag come to. -/
theorem Rounds.refreshes (attentive : Attentive world) (named : name ≠ "")
    (writes : world.Writes base)
    (done : base.Rounds bag name (world.bag bag).listeners.toList rounds after)
    (answered :
      ∀ id,
        (world.putValue bag name value).Alive id → world.Reads bag name id →
        world.evaluations id < after.evaluations id) :
    world.Refreshes bag name value rounds after := by
  have counted :
      ∀ id, after.evaluations id = world.evaluations id + rounds.count id := by
    intro id
    rw [done.evaluations_eq, writes.evaluations]
  have shown : after.display = rounds.foldl after.presented world.display := by
    rw [← writes.display]
    exact done.display after (.refl after) fun _ _ => rfl
  have looks : ∀ widget, (after.widget widget).look =
      (rounds.foldl after.presented world.display).looks widget := fun widget =>
        congrFun (congrArg Display.looks shown) widget
  refine {
    once := done.once
    readers := fun id member => writes.reads.mp (done.readers id member)
    all := fun id alive reads => ?_
    gone := fun id recorded subscribed reads => ?_
    evaluations := counted
    concluded := fun id member => ?_
    display := shown
    widgetCount := done.upholds.stays.widgetCount.trans
      (congrArg Store.size writes.widgets)
    widgets := fun widget apart =>
      (looks widget).trans (looks_foldl_presented_of_ne apart)
    properties := fun widget name apart =>
      (congrArg (·.fields.lookup name) (looks widget)).trans
        (lookup_foldl_presented_of_ne apart) }
  · have more := answered id alive reads
    rw [counted id] at more
    exact List.count_pos_iff.mp (Nat.lt_add_right_iff_pos.mp more)
  · have ⟨binding, found, slot, read, announced, spelled⟩ := reads
    obtain ⟨number, entry⟩ :=
      (attentive.covered id recorded).resolve_left subscribed binding
        found slot read
    rw [announced] at entry
    refine done.complete id binding.generation slot.2 (List.mem_map_of_mem entry)
      ((hears_iff_sameKey named).mpr spelled) ?_
    rw [writes.evaluations, evaluations_of found]
  · obtain ⟨_, binding, outcome, _, found, _, kept⟩ := done.concluded id member
    exact ⟨binding, outcome, found, kept⟩

end World

section

open World

variable {host observer : Host σ} {start world after : World σ} {bag : BagId}
  {name : String} {value : Value}

/-- A value of a bag is set while no live property is being refreshed. -/
theorem Host.LooksOn.set_refreshes (looksOn : observer.LooksOn) (depth : Nat)
    (attentive : Attentive world) (resting : world.Resting)
    (named : name ≠ "") (known : value.Known world world.loaded)
    (reads : ∀ id, world.Listens id → after.ReadsBags id)
    (set :
      bag.set (observer.deliver (depth + 2)) name value world = ((), after)) :
    ∃ rounds, world.Refreshes bag name value rounds after := by
  have written : (world.putValue bag name value).Attentive :=
    ((writesBag_put known).alters.heeds attentive).attentive
  have notified : (ObjectId.notify (observer.deliver (depth + 2)) (.bag bag) name
    (world.putValue bag name value)).2 = after := congrArg Prod.snd set
  have listeners : ((world.putValue bag name value).bag bag).listeners =
        (world.bag bag).listeners :=
    listenersAt_putValue world bag name value (.inl bag)
  obtain ⟨things, rounds, done⟩ :=
    looksOn.notify_rounds depth written resting bag named fun id listens =>
      notified ▸ reads id
        (listens_of_listenersAt
          (listenersAt_putValue world bag name value) listens)
  rw [notified, listeners] at done
  have writes := writes_putValue world bag name value things
  refine ⟨rounds, done.refreshes attentive named writes fun id alive reading => ?_⟩
  obtain ⟨binding, found, slot, read, announced, spelled⟩ := reading
  have shared : (world.putValue bag name value).announcer slot.1 =
        (world.putValue bag name value).announcer (.bag bag) :=
    (writes.announcer slot.1).trans announced
  have answered :=
    looksOn.notify_evaluates (depth + 1) written (resting id) alive found read
      shared ((hears_iff_sameKey named).mpr spelled)
  rw [notified] at answered
  rwa [evaluations_of found]

/-- When a value of a bag is set, in the course of any session, every live
property at work whose latest evaluation has read it, in any spelling and
through any object, is evaluated once, and no other is evaluated.  What an
evaluation gives is given to its widget once; no other widget is given anything,
and none is made.  The live properties may read whatever bags and controllers
hold, and the host may be told of changes as long as it only looks on. -/
theorem set_refreshes_readers (sensible : host.Sensible)
    (looksOn : observer.LooksOn) (unrendered : start.Unrendered)
    {nesting depth : Nat}
    (session : Acts (host.deliver nesting) Act.Sensible start world)
    (named : name ≠ "") (known : value.Known world world.loaded)
    (reads : ∀ id, world.Listens id → after.ReadsBags id)
    (set :
      bag.set (observer.deliver (depth + 2)) name value world = ((), after)) :
    ∃ rounds, world.Refreshes bag name value rounds after := by
  obtain ⟨attentive, resting⟩ := session.attentive unrendered sensible
  exact looksOn.set_refreshes depth attentive resting named known reads set

end

namespace World

/-! A label adds up two entries of a bag, one named in another spelling of the
other.  It listens to both, so it hears twice of a change of either. -/

/-- The source text of the label. -/
def twoSpellingsSource : String :=
  "Label { text := $controller.divisor + $controller.Divisor }"

/-- The world in which the label is shown. -/
def twoSpellings : World Unit :=
  (Act.renderSource twoSpellingsSource ⟨⟨0⟩, false, []⟩ ⟨0⟩).perform
    (Host.silent.deliver 5)
    ((Act.set ⟨0⟩ "Divisor" (.int 3)).perform (Host.silent.deliver 5)
      divisorStart)

/-- The world in which one of the entries has changed. -/
def twoSpellingsChanged : World Unit :=
  (BagId.set (Host.silent.deliver (0 + 2)) ⟨0⟩ "divisor" (.int 5) twoSpellings).2

theorem twoSpellings_session :
    Acts (Host.silent.deliver 5) Act.Sensible divisorStart twoSpellings :=
  .act _ (.act _ .done trivial) (show 0 < _ by decide +kernel)

theorem twoSpellings_set :
    BagId.set (Host.silent.deliver (0 + 2)) ⟨0⟩ "divisor" (.int 5)
      twoSpellings = ((), twoSpellingsChanged) :=
  eq_pair (Subsingleton.elim _ _)

theorem twoSpellings_shape :
    (twoSpellings.bag ⟨0⟩).listeners.count = 2 ∧
    (twoSpellings.binding? ⟨0⟩).map (·.watched) =
      some [(.handle ⟨0⟩, "Divisor"), (.handle ⟨0⟩, "divisor")] ∧
    (twoSpellings.binding? ⟨0⟩).map
      (fun binding => (binding.handle, binding.widget,
        binding.subscriptions.isEmpty)) = some (⟨0⟩, ⟨1⟩, false) ∧
    .binding ⟨0⟩ ∈ (twoSpellings.handle ⟨0⟩).subscriptions ∧
    (twoSpellings.handle ⟨0⟩).root = some ⟨1⟩ ∧
    twoSpellings.announcer (.handle ⟨0⟩) = .inl ⟨0⟩ := by
  decide +kernel

theorem twoSpellingsChanged_shape :
    twoSpellingsChanged.journal = .set ⟨1⟩ "text" "8" :: twoSpellings.journal ∧
      fieldText (twoSpellingsChanged.widget ⟨1⟩).fields "text" = "8" ∧
      (twoSpellingsChanged.binding? ⟨0⟩).map (·.everWatched) =
        some [(.handle ⟨0⟩, "Divisor"), (.handle ⟨0⟩, "divisor")] ∧
      twoSpellingsChanged.bindings.size = 1 := by
  decide +kernel

theorem twoSpellingsChanged_reads (id : BindingId) :
    twoSpellingsChanged.ReadsBags id := by
  obtain ⟨_, _, shape, count⟩ := twoSpellingsChanged_shape
  intro binding found slot member widget
  rcases id with ⟨_ | index⟩
  · rw [found, Option.map_some, Option.some.injEq] at shape
    rw [shape] at member
    rcases List.mem_cons.mp member with rfl | last
    · nofun
    · cases List.mem_singleton.mp last
      nofun
  · have inside := Store.lt_size_of_get? found
    change index + 1 < twoSpellingsChanged.bindings.size at inside
    omega

theorem twoSpellings_alive :
    (twoSpellings.putValue ⟨0⟩ "divisor" (.int 5)).Alive ⟨0⟩ := by
  obtain ⟨_, _, shape, recorded, root, _⟩ := twoSpellings_shape
  exact alive_putValue shape recorded root

theorem twoSpellings_reads : twoSpellings.Reads ⟨0⟩ "divisor" ⟨0⟩ := by
  obtain ⟨_, shape, _, _, _, announced⟩ := twoSpellings_shape
  obtain ⟨binding, found, watched⟩ := Option.map_eq_some_iff.mp shape
  refine ⟨binding, found, (.handle ⟨0⟩, "divisor"), ?_, announced, rfl⟩
  rw [watched]
  exact List.mem_cons_of_mem _ List.mem_cons_self

/-- The label hears twice of the change, and has one round, in which its text is
written. -/
theorem set_refreshes_both_spellings :
    (twoSpellings.bag ⟨0⟩).listeners.count = 2 ∧
    twoSpellingsChanged.journal = .set ⟨1⟩ "text" "8" :: twoSpellings.journal ∧
    fieldText (twoSpellingsChanged.widget ⟨1⟩).fields "text" = "8" ∧
    ∃ rounds,
      twoSpellings.Refreshes ⟨0⟩ "divisor" (.int 5) rounds twoSpellingsChanged ∧
      ⟨0⟩ ∈ rounds := by
  have known : (Value.int 5).Known twoSpellings twoSpellings.loaded := trivial
  obtain ⟨rounds, refreshes⟩ :=
    set_refreshes_readers Host.silent_sensible Host.silent_looksOn
      divisorStart_unrendered twoSpellings_session (by decide) known
      (fun id _ => twoSpellingsChanged_reads id) twoSpellings_set
  obtain ⟨asked, shows, _⟩ := twoSpellingsChanged_shape
  refine ⟨twoSpellings_shape.1, asked, shows, rounds, refreshes, ?_⟩
  exact refreshes.all ⟨0⟩ twoSpellings_alive twoSpellings_reads

end World

end LiveMarkup
