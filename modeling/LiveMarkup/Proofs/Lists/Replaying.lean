import Mathlib
import LiveMarkup.Host
import LiveMarkup.Proofs.Lists.Changes
import LiveMarkup.Proofs.Bindings.Wiring

/-!
# A list is replayed by its changes

Who listens to a list hears of exactly the changes that are made while the
listener is registered, each at the moment when the list already shows it.  The
changes lead from the elements that the list had when the listener came to those
that it has when the listener goes.

Listeners do with the world what they like, as long as they leave the list
alone.  One of them writes down what it hears and what it sees.
-/

namespace LiveMarkup

variable {σ : Type}

/-- The world after a listener was told of a change. -/
def World.tell (world : World σ) (deliver : Deliver σ)
    (listener : ListListener) (change : ListChange) : World σ :=
  (deliver (.list listener change) world).2.unpin
    ((Callback.list listener change).owns world)

/-- The world after an operation on a list. -/
def ListAct.perform (deliver : Deliver σ) (list : ListId) (world : World σ) :
    ListAct → World σ
  | .push value => (list.push deliver value world).2
  | .extend values => (list.extend deliver values world).2
  | .insert index value => (list.insert deliver index value world).2
  | .remove index => (list.remove deliver index world).2
  | .removeItem value => (list.removeItem deliver value world).2
  | .truncate length => (list.truncate deliver length world).2
  | .clear => (list.clear deliver world).2
  | .subscribe listener => (list.subscribe listener world).2
  | .unsubscribe number => (list.unsubscribe number world).2

/-- The world after several operations on a list. -/
def ListAct.performAll (deliver : Deliver σ) (list : ListId) (world : World σ)
    (acts : List ListAct) : World σ :=
  acts.foldl (ListAct.perform deliver list) world

/-- What a listener has written down: changes, and the elements that it saw when
it was told of each. -/
abbrev Notebook := List (ListChange × List Value)

/-- A list is left alone, and something is written down. -/
structure LeftAlone (steady : World σ → Prop) (list : ListId)
    (record : World σ → Notebook) (notes : Notebook) (world after : World σ) :
    Prop where
  steady : steady after
  list : after.list list = world.list list
  record : record after = record world ++ notes

/-- Listeners that leave a list alone, in worlds that stay of a kind, and among
them one that writes down what it hears and sees.  Of other listeners and of
what operations do besides, nothing is written down. -/
structure Spectators (deliver : Deliver σ) (list : ListId)
    (steady : World σ → Prop) (polite : ListListener → Prop)
    (me : ListListener) (record : World σ → Notebook) : Prop where
  inside : ∀ {world}, steady world → list.index < world.lists.size
  tell : ∀ {world listener},
      steady world → polite listener →
      ∀ change,
        LeftAlone steady list record
          (if listener = me then [(change, (world.list list).items)] else [])
          world (world.tell deliver listener change)
  pin : ∀ {world},
      steady world →
      ∀ things, LeftAlone steady list record [] world (world.pin things)
  sweep :
      ∀ {world},
        steady world → LeftAlone steady list record [] world world.sweep
  /-- The kind of the worlds does not depend on the list. -/
  update : ∀ {world},
      steady world →
      ∀ change,
        steady (world.updateList list change) ∧
        record (world.updateList list change) = record world

variable {deliver : Deliver σ} {list : ListId} {steady : World σ → Prop}
  {polite : ListListener → Prop}
  {me : ListListener} {record : World σ → Notebook}

namespace LeftAlone

variable {world middle after : World σ} {notes more : Notebook}

theorem refl (steadyWorld : steady world) :
    LeftAlone steady list record [] world world :=
  ⟨steadyWorld, rfl, (List.append_nil _).symm⟩

theorem trans (first : LeftAlone steady list record notes world middle)
    (second : LeftAlone steady list record more middle after) :
    LeftAlone steady list record (notes ++ more) world after where
  steady := second.steady
  list := second.list.trans first.list
  record := by rw [second.record, first.record, List.append_assoc]

end LeftAlone

/-- A world of the kind, what the list is in it, and what has been written down. -/
structure Noted (steady : World σ → Prop) (list : ListId)
    (record : World σ → Notebook) (content : ObservableList)
    (notes : Notebook) (world : World σ) : Prop where
  steady : steady world
  list : world.list list = content
  record : record world = notes

theorem LeftAlone.stands {world after : World σ} {notes more : Notebook}
    {content : ObservableList}
    (leftAlone : LeftAlone steady list record more world after)
    (stands : Noted steady list record content notes world) :
    Noted steady list record content (notes ++ more) after where
  steady := leftAlone.steady
  list := leftAlone.list.trans stands.list
  record := by rw [leftAlone.record, stands.record]

/-- What is written down of changes by a listener that is registered as often as
it is. -/
def notesOf (me : ListListener) (listeners : Listeners ListListener)
    (items : List Value) (changes : List ListChange) : Notebook :=
  (shownWith items changes).flatMap (List.replicate (listeners.toList.count me))

theorem notesOf_append (me : ListListener)
    (listeners : Listeners ListListener) (items : List Value)
    (first second : List ListChange) :
    notesOf me listeners items (first ++ second) =
      notesOf me listeners items first ++
        notesOf me listeners (applyChanges items first) second := by
  rw [notesOf, shownWith_append, List.flatMap_append]
  rfl

/-- What leads from one world to the next makes changes, and the listeners are
told of them. -/
def Makes (steady : World σ → Prop) (list : ListId)
    (record : World σ → Notebook) (me : ListListener)
    (listeners : Listeners ListListener) (items : List Value)
    (changes : List ListChange) (world after : World σ) : Prop :=
  ∀ notes, Noted steady list record ⟨items, listeners⟩ notes world →
    Noted steady list record ⟨applyChanges items changes, listeners⟩
      (notes ++ notesOf me listeners items changes) after

namespace Makes

variable {world middle after : World σ} {listeners : Listeners ListListener}
  {items : List Value}
  {first second : List ListChange}

theorem nothing : Makes steady list record me listeners items [] world world := by
  intro notes stands
  rw [notesOf, shownWith, List.flatMap_nil, List.append_nil]
  exact stands

/-- What a list makes of changes in two steps it makes of all of them. -/
theorem append
    (makes : Makes steady list record me listeners items first world middle)
    (more :
      Makes steady list record me listeners (applyChanges items first) second
        middle after) :
    Makes steady list record me listeners items (first ++ second)
      world after := by
  intro notes stands
  rw [notesOf_append, applyChanges_append, ← List.append_assoc]
  exact more _ (makes notes stands)

end Makes

namespace Spectators

variable {world : World σ} {listeners : Listeners ListListener} {items : List Value}

/-- Listeners are told one after the other, and one writes down the same as
often as it is among them. -/
theorem runEach (spectators : Spectators deliver list steady polite me record)
    (steadyWorld : steady world) (told : List ListListener)
    (civil : ∀ listener ∈ told, polite listener) (change : ListChange) :
    LeftAlone steady list record
      (List.replicate (told.count me) (change, (world.list list).items)) world
      (runEach deliver (told.map (Callback.list · change)) world).2 := by
  induction told generalizing world with
  | nil => exact .refl steadyWorld
  | cons listener rest hypothesis =>
    have first :=
      spectators.tell steadyWorld (civil listener List.mem_cons_self) change
    have others :=
      hypothesis first.steady fun other member =>
        civil other (List.mem_cons_of_mem _ member)
    rw [first.list] at others
    have whole := first.trans others
    by_cases own : listener = me
    · rw [if_pos own, List.singleton_append, ← List.replicate_succ] at whole
      rw [own, List.count_cons_self]
      rw [own] at whole
      exact whole
    · rw [if_neg own, List.nil_append] at whole
      rw [List.count_cons_of_ne own]
      exact whole

/-- A change is recorded once for each time the spectator listens. -/
theorem emit (spectators : Spectators deliver list steady polite me record)
    (steadyWorld : steady world)
    (civil : ∀ listener ∈ (world.list list).listeners.toList, polite listener)
    (change : ListChange) :
    LeftAlone steady list record
      (List.replicate ((world.list list).listeners.toList.count me)
        (change, (world.list list).items)) world
      (list.emit deliver change world).2 := by
  have pinned :=
    spectators.pin steadyWorld
      (((world.list list).listeners.toList.map (Callback.list · change)).flatMap
        (·.owns world))
  have told :=
    spectators.runEach pinned.steady (world.list list).listeners.toList
      civil change
  rw [pinned.list] at told
  exact pinned.trans told

/-- The elements of the list are replaced, and listeners are told of it while
the list shows the new ones. -/
theorem announce
    (spectators : Spectators deliver list steady polite me record)
    (civil : ∀ listener ∈ listeners.toList, polite listener)
    (change : ListChange) :
    Makes steady list record me listeners items [change] world
      (list.emit deliver
        change (list.setItems (change.apply items) world).2).2 := by
  intro notes stands
  have updated :=
    spectators.update stands.steady fun old =>
      { old with items := change.apply items }
  have replaced : (list.setItems (change.apply items) world).2.list list =
        ⟨change.apply items, listeners⟩ := by
    change (world.updateList list fun old =>
      { old with items := change.apply items }).list list = _
    rw [World.list_updateList, if_pos ⟨rfl, spectators.inside stands.steady⟩,
      stands.list]
  have placed :
      Noted steady list record ⟨change.apply items, listeners⟩ notes
        (list.setItems (change.apply items) world).2 :=
    ⟨updated.1, replaced, updated.2.trans stands.record⟩
  have told := spectators.emit placed.steady (by rwa [placed.list]) change
  rw [placed.list] at told
  rw [notesOf, shownWith, shownWith, List.flatMap_singleton]
  exact told.stands placed

/-! ## The operations -/

/-- A value that is pushed is told as an addition at the end. -/
theorem push (spectators : Spectators deliver list steady polite me record)
    (civil : ∀ listener ∈ listeners.toList, polite listener) (value : Value) :
    Makes steady list record me listeners items (appending items value) world
      (list.push deliver value world).2 := by
  intro notes stands
  have pushed := spectators.announce civil (.add items.length value) notes stands
  unfold ListId.push
  rw [Action.bind_apply, Action.get_apply, stands.list]
  exact pushed

/-- Values that extend the list are told one by one. -/
theorem extend (spectators : Spectators deliver list steady polite me record)
    (civil : ∀ listener ∈ listeners.toList, polite listener) (values : List Value) :
    Makes steady list record me listeners items (extending items values) world
      (list.extend deliver values world).2 := by
  induction values generalizing items world with
  | nil => exact .nothing
  | cons value rest hypothesis =>
    have first :
        Makes steady list record me listeners items
          (appending items value) world _ :=
      spectators.push civil value
    exact first.append hypothesis

/-- An insertion is told with its index, unless that is out of range. -/
theorem insert (spectators : Spectators deliver list steady polite me record)
    (civil : ∀ listener ∈ listeners.toList, polite listener) (index : Nat)
    (value : Value) :
    Makes steady list record me listeners items
      ((ListAct.insert index value).changes items) world
      (list.insert deliver index value world).2 := by
  intro notes stands
  unfold ListId.insert ListAct.changes
  rw [Action.bind_apply, Action.get_apply, stands.list]
  dsimp only
  by_cases beyond : items.length < index
  · rw [if_pos beyond, if_pos beyond]
    exact Makes.nothing notes stands
  · rw [if_neg beyond, if_neg beyond]
    by_cases last : index = items.length
    · rw [if_pos last, if_pos (beq_iff_eq.mpr last), Action.bind_apply,
        Action.pure_apply]
      exact spectators.push civil value notes stands
    · rw [if_neg last, if_neg (by rwa [beq_iff_eq])]
      simp only [Action.bind_apply, Action.pure_apply]
      exact spectators.announce civil (.insert index value) notes stands

/-- A removal is told with the value that went, unless the index is out of
range. -/
theorem remove (spectators : Spectators deliver list steady polite me record)
    (civil : ∀ listener ∈ listeners.toList, polite listener) (index : Nat) :
    Makes steady list record me listeners items (removing items index) world
      (list.remove deliver index world).2 := by
  intro notes stands
  unfold ListId.remove removing
  rw [Action.bind_apply, Action.get_apply, stands.list]
  dsimp only
  cases items[index]? with
  | none => exact Makes.nothing notes stands
  | some value =>
    simp only [Action.bind_apply, Action.pure_apply]
    exact spectators.announce civil (.remove index value) notes stands

/-- The removal of a value is told with the index of its first occurrence. -/
theorem removeItem
    (spectators : Spectators deliver list steady polite me record)
    (civil : ∀ listener ∈ listeners.toList, polite listener) (value : Value) :
    Makes steady list record me listeners items
      ((ListAct.removeItem value).changes items) world
      (list.removeItem deliver value world).2 := by
  intro notes stands
  unfold ListId.removeItem ListAct.changes
  rw [Action.bind_apply, Action.get_apply, stands.list]
  dsimp only
  cases items.findIdx? (·.same value) with
  | none => exact Makes.nothing notes stands
  | some index => exact spectators.remove civil index notes stands

/-- Elements are cut off the end as long as there are too many. -/
theorem cut (spectators : Spectators deliver list steady polite me record)
    (civil : ∀ listener ∈ listeners.toList, polite listener) (length : Nat)
    {bound : Nat} (enough : items.length < bound) :
    Makes steady list record me listeners items (cutting items length) world
      (list.cut deliver length bound world).2 := by
  induction bound generalizing items world with
  | zero => omega
  | succ bound hypothesis =>
    intro notes stands
    rw [ListId.cut, Action.bind_apply, Action.get_apply, stands.list]
    dsimp only
    by_cases long : length < items.length
    · rw [if_pos long, Action.bind_apply, cutting_of_lt long]
      have removed :
          Makes steady list record me listeners items
            (removing items (items.length - 1)) world _ :=
        spectators.remove civil (items.length - 1)
      refine removed.append (hypothesis ?_) notes stands
      rw [(removing_fits items _).applyChanges_eq,
        List.length_eraseIdx_of_lt (by omega)]
      omega
    · rw [if_neg long, cutting_of_le (Nat.le_of_not_lt long)]
      exact Makes.nothing notes stands

/-- Cutting a list is told as removals from its end. -/
theorem truncate (spectators : Spectators deliver list steady polite me record)
    (civil : ∀ listener ∈ listeners.toList, polite listener) (length : Nat) :
    Makes steady list record me listeners items (cutting items length) world
      (list.truncate deliver length world).2 := by
  intro notes stands
  unfold ListId.truncate
  rw [Action.bind_apply, Action.get_apply, stands.list]
  exact spectators.cut civil length
    (Nat.lt_add_of_pos_left (Nat.zero_lt_succ _)) notes stands

/-- Listeners come and go without being told of anything. -/
theorem register
    (spectators : Spectators deliver list steady polite me record)
    {notes : Notebook}
    (stands : Noted steady list record ⟨items, listeners⟩ notes world)
    (change : Listeners ListListener → Listeners ListListener) :
    Noted steady list record ⟨items, change listeners⟩ notes
      (world.updateList list fun old =>
        { old with listeners := change old.listeners }) where
  steady := (spectators.update stands.steady _).1
  list := by
    rw [World.list_updateList, if_pos ⟨rfl, spectators.inside stands.steady⟩,
      stands.list]
  record := (spectators.update stands.steady _).2.trans stands.record

/-- Every operation makes its changes, and listeners are told of them. -/
theorem perform (spectators : Spectators deliver list steady polite me record)
    {notes : Notebook}
    (civil : ∀ listener ∈ listeners.toList, polite listener) (act : ListAct)
    (stands : Noted steady list record ⟨items, listeners⟩ notes world) :
    Noted steady list record ⟨applyChanges items (act.changes items),
      act.listeners listeners⟩
      (notes ++ notesOf me listeners items (act.changes items))
      (act.perform deliver list world) := by
  cases act with
  | push value => exact spectators.push civil value notes stands
  | extend values => exact spectators.extend civil values notes stands
  | insert index value => exact spectators.insert civil index value notes stands
  | remove index => exact spectators.remove civil index notes stands
  | removeItem value => exact spectators.removeItem civil value notes stands
  | truncate length => exact spectators.truncate civil length notes stands
  | clear => exact spectators.truncate civil 0 notes stands
  | subscribe listener =>
    rw [ListAct.changes, notesOf, shownWith, List.flatMap_nil, List.append_nil]
    exact spectators.register stands (·.subscribe listener)
  | unsubscribe number =>
    have registered := spectators.register stands (·.unsubscribe number)
    exact (spectators.sweep registered.steady).stands registered

end Spectators

/-! ## Who listens -/

/-- An operation that registers a listener registers one that leaves the list
alone, and not the one that writes down what it hears. -/
def ListAct.Civil (polite : ListListener → Prop) (me : ListListener)
    (act : ListAct) : Prop :=
  ∀ listener, act = .subscribe listener → polite listener ∧ listener ≠ me

/-- Listeners of which all leave the list alone, and one is registered some
number of times. -/
structure Attended (polite : ListListener → Prop) (me : ListListener) (times : Nat)
    (listeners : Listeners ListListener) : Prop where
  ordered : listeners.Ordered
  civil : ∀ listener ∈ listeners.toList, polite listener
  count : listeners.toList.count me = times

theorem Listeners.toList_subscribe (listeners : Listeners ListListener)
    (listener : ListListener) :
    (listeners.subscribe listener).toList = listeners.toList ++ [listener] :=
  List.map_append

theorem Listeners.toList_unsubscribe (listeners : Listeners ListListener)
    (number : Nat) :
    (listeners.unsubscribe number).toList.Sublist listeners.toList :=
  List.Sublist.map _ (List.eraseP_sublist ..)

namespace Attended

variable {times : Nat} {listeners : Listeners ListListener}

/-- Who subscribes attends once more, if it was the spectator. -/
theorem subscribe (attended : Attended polite me times listeners)
    {listener : ListListener} (civil : polite listener) :
    Attended polite me (times + [listener].count me)
      (listeners.subscribe listener) where
  ordered := attended.ordered.subscribe listener
  civil other member := by
    rw [Listeners.toList_subscribe, List.mem_append, List.mem_singleton] at member
    rcases member with old | rfl
    · exact attended.civil other old
    · exact civil
  count := by rw [Listeners.toList_subscribe, List.count_append, attended.count]

theorem unsubscribe (attended : Attended polite me times listeners)
    (number : Nat) :
    Attended polite me ((listeners.unsubscribe number).toList.count me)
      (listeners.unsubscribe number) where
  ordered := attended.ordered.unsubscribe number
  civil other member :=
    attended.civil other ((listeners.toList_unsubscribe number).subset member)
  count := rfl

/-- Who is not registered is not registered by others. -/
theorem absent (attended : Attended polite me 0 listeners) {act : ListAct}
    (civil : act.Civil polite me) :
    Attended polite me 0 (act.listeners listeners) := by
  cases act with
  | subscribe listener =>
    obtain ⟨polite, other⟩ := civil listener rfl
    have more := attended.subscribe polite
    rwa [List.count_eq_zero_of_not_mem
      (by rw [List.mem_singleton]; exact other.symm)] at more
  | unsubscribe number =>
    have fewer := attended.unsubscribe number
    have none : (listeners.unsubscribe number).toList.count me = 0 :=
      Nat.eq_zero_of_le_zero
        (attended.count ▸ (listeners.toList_unsubscribe number).count_le me)
    rwa [none] at fewer
  | _ => exact attended

/-- Who is registered once stays so until its own number is removed. -/
theorem present (attended : Attended polite me 1 listeners) {number : Nat}
    (own : (number, me) ∈ listeners.entries) {act : ListAct}
    (civil : act.Civil polite me) (stays : act ≠ .unsubscribe number) :
    Attended polite me 1 (act.listeners listeners) ∧
    (number, me) ∈ (act.listeners listeners).entries := by
  cases act with
  | subscribe listener =>
    obtain ⟨polite, other⟩ := civil listener rfl
    have more := attended.subscribe polite
    rw [List.count_eq_zero_of_not_mem
      (by rw [List.mem_singleton]; exact other.symm)] at more
    exact ⟨more, List.mem_append_left _ own⟩
  | unsubscribe gone =>
    have still : (number, me) ∈ (listeners.unsubscribe gone).entries :=
      Listeners.mem_unsubscribe own fun same => stays (same ▸ rfl)
    have some : 0 < (listeners.unsubscribe gone).toList.count me :=
      List.count_pos_iff.mpr (List.mem_map_of_mem still)
    have most := attended.count ▸ (listeners.toList_unsubscribe gone).count_le me
    have once : (listeners.unsubscribe gone).toList.count me = 1 :=
      Nat.le_antisymm most some
    exact ⟨once ▸ attended.unsubscribe gone, still⟩
  | _ => exact ⟨attended, own⟩

/-- Who is registered once is no longer so when its number is removed. -/
theorem leave (attended : Attended polite me 1 listeners) {number : Nat}
    (own : (number, me) ∈ listeners.entries) :
    Attended polite me 0 (listeners.unsubscribe number) := by
  have fewer := attended.unsubscribe number
  have gone : (listeners.unsubscribe number).toList.count me = 0 := by
    let numbered (entry : Nat × ListListener) : Bool := entry.1 == number
    have mine : numbered (number, me) = true := beq_self_eq_true number
    obtain ⟨entry, before, after, _, same, split, rest⟩ :=
      List.exists_of_eraseP own mine
    have found : entry = (number, me) :=
      List.inj_on_of_nodup_map attended.ordered.distinct
        (split ▸ List.mem_append_right _ List.mem_cons_self) own
        (beq_iff_eq.mp same)
    have count := attended.count
    rw [Listeners.toList, split, found, List.map_append, List.map_cons,
      List.count_append, List.count_cons_self] at count
    change ((listeners.entries.eraseP (·.1 == number)).map Prod.snd).count me = 0
    rw [rest, List.map_append, List.count_append]
    omega
  rwa [gone] at fewer

end Attended

/-! ## Many operations -/

namespace Spectators

variable {world : World σ} {listeners : Listeners ListListener}
  {items : List Value} {notes : Notebook}

/-- Operations make their changes one after the other, as long as who listens
stays as it is. -/
theorem run (spectators : Spectators deliver list steady polite me record)
    {phase : Listeners ListListener → Prop} {times : Nat}
    (attended :
      ∀ {listeners}, phase listeners → Attended polite me times listeners)
    {acts : List ListAct}
    (keeps :
      ∀ act ∈ acts, ∀ listeners,
        phase listeners → phase (act.listeners listeners))
    (within : phase listeners)
    (stands : Noted steady list record ⟨items, listeners⟩ notes world) :
    ∃ later,
      phase later ∧
      Noted steady list record
        ⟨applyChanges items (ListAct.allChanges items acts), later⟩
        (notes ++ (shownWith items (ListAct.allChanges items acts)).flatMap
          (List.replicate times))
        (ListAct.performAll deliver list world acts) := by
  induction acts generalizing world listeners items notes with
  | nil =>
    refine ⟨listeners, within, ?_⟩
    rw [ListAct.allChanges, shownWith, List.flatMap_nil, List.append_nil]
    exact stands
  | cons act rest hypothesis =>
    have performed := spectators.perform (attended within).civil act stands
    obtain ⟨later, phase, stood⟩ :=
      hypothesis (fun other member =>
        keeps other (List.mem_cons_of_mem _ member))
        (keeps act List.mem_cons_self listeners within) performed
    refine ⟨later, phase, ?_⟩
    rw [ListAct.allChanges, applyChanges_append, shownWith_append,
      List.flatMap_append, ← List.append_assoc]
    rw [notesOf, (attended within).count] at stood
    exact stood

/-- Who is not registered hears of nothing. -/
theorem run_absent
    (spectators : Spectators deliver list steady polite me record)
    (attended : Attended polite me 0 listeners) {acts : List ListAct}
    (civil : ∀ act ∈ acts, act.Civil polite me)
    (stands : Noted steady list record ⟨items, listeners⟩ notes world) :
    ∃ later,
      Attended polite me 0 later ∧
      Noted steady list record
        ⟨applyChanges items (ListAct.allChanges items acts), later⟩ notes
        (ListAct.performAll deliver list world acts) := by
  obtain ⟨later, absent, stood⟩ :=
    spectators.run id (fun act member _ attended =>
      attended.absent (civil act member)) attended stands
  have silent :
      (shownWith items (ListAct.allChanges items acts)).flatMap
        (List.replicate 0) = [] :=
    List.flatMap_eq_nil_iff.mpr fun _ _ => rfl
  rw [silent, List.append_nil] at stood
  exact ⟨later, absent, stood⟩

/-- Who is registered once hears of every change, as long as its number is not
removed. -/
theorem run_present
    (spectators : Spectators deliver list steady polite me record)
    (attended : Attended polite me 1 listeners) {number : Nat}
    (own : (number, me) ∈ listeners.entries) {acts : List ListAct}
    (civil : ∀ act ∈ acts, act.Civil polite me)
    (stays : .unsubscribe number ∉ acts)
    (stands : Noted steady list record ⟨items, listeners⟩ notes world) :
    ∃ later,
      (Attended polite me 1 later ∧ (number, me) ∈ later.entries) ∧
      Noted steady list record
        ⟨applyChanges items (ListAct.allChanges items acts), later⟩
        (notes ++ shownWith items (ListAct.allChanges items acts))
        (ListAct.performAll deliver list world acts) := by
  have keeps : ∀ act ∈ acts, ∀ listeners,
      Attended polite me 1 listeners ∧ (number, me) ∈ listeners.entries →
        Attended polite me 1 (act.listeners listeners) ∧
        (number, me) ∈ (act.listeners listeners).entries :=
    fun act member _ phase => phase.1.present phase.2 (civil act member)
      fun same => stays (same ▸ member)
  obtain ⟨later, present, stood⟩ :=
    spectators.run And.left keeps ⟨attended, own⟩ stands
  have once : ∀ notes : Notebook, notes.flatMap (List.replicate 1) = notes :=
    List.flatMap_singleton'
  rw [once] at stood
  exact ⟨later, present, stood⟩

end Spectators

/-- A value that is inserted beyond the end is refused, and nobody hears of it. -/
theorem ListId.insert_beyond (deliver : Deliver σ) (list : ListId)
    {world : World σ} {index : Nat} (value : Value)
    (beyond : (world.list list).items.length < index) :
    list.insert deliver index value world =
      (.error ⟨index, (world.list list).items.length⟩, world) := by
  unfold ListId.insert
  rw [Action.bind_apply, Action.get_apply]
  dsimp only
  rw [if_pos beyond]
  rfl

/-- Beyond the end there is nothing to remove, and nobody hears of it. -/
theorem ListId.remove_beyond (deliver : Deliver σ) (list : ListId)
    {world : World σ} {index : Nat}
    (beyond : (world.list list).items.length ≤ index) :
    list.remove deliver index world = (none, world) := by
  unfold ListId.remove
  rw [Action.bind_apply, Action.get_apply]
  dsimp only
  rw [List.getElem?_eq_none beyond]
  rfl

/-- The changes that a listener hears of replay the list.  From its registration
until its number is removed it hears of the changes that operations make, and of
no others; each is told when the list shows it.  They lead from the elements at
the registration to those that there are now, or are there when the listener
goes.  What reaches beyond the end of the list changes nothing. -/
theorem list_replayed (spectators :
    Spectators deliver list steady polite me record) {world joined : World σ}
    (steadyWorld : steady world)
    (attended : Attended polite me 0 (world.list list).listeners)
    (civil : polite me) {before during after : List ListAct}
    (civilBefore : ∀ act ∈ before, act.Civil polite me)
    (civilDuring : ∀ act ∈ during, act.Civil polite me)
    (civilAfter : ∀ act ∈ after, act.Civil polite me)
    {number : Nat} (joins :
    list.subscribe me (ListAct.performAll deliver list world before) =
    (number, joined))
    (stays : .unsubscribe number ∉ during) :
    let items := ((ListAct.performAll deliver list world before).list list).items
    let heard := ListAct.performAll deliver list joined during
    let left :=
      ListAct.performAll deliver list (list.unsubscribe number heard).2 after
    Replays items (ListAct.allChanges items during) (heard.list list).items ∧
        record heard = record world ++
        shownWith items (ListAct.allChanges items during) ∧
        record left = record heard ∧
        (∀ (world : World σ) (index : Nat) (value : Value),
          (world.list list).items.length < index →
          list.insert deliver index value world =
          (.error ⟨index, (world.list list).items.length⟩, world)) ∧
        ∀ (world : World σ) (index : Nat),
        (world.list list).items.length ≤ index →
        list.remove deliver index world = (none, world) := by
  intro items heard left
  have untouched :
      Noted steady list record (world.list list) (record world) world :=
    ⟨steadyWorld, rfl, rfl⟩
  obtain ⟨others, absent, stood⟩ :=
    spectators.run_absent attended civilBefore untouched
  have begun : Noted steady list record ⟨items, others⟩ (record world)
      (ListAct.performAll deliver list world before) :=
    ⟨stood.steady, congrArg (ObservableList.mk items)
      (congrArg ObservableList.listeners stood.list), stood.record⟩
  have registered := absent.subscribe civil
  rw [List.count_cons_self, List.count_nil] at registered
  have added : Noted steady list record ⟨items, others.subscribe me⟩ (record world)
      (list.subscribe me (ListAct.performAll deliver list world before)).2 :=
    spectators.register begun (·.subscribe me)
  rw [joins] at added
  have numbered : others.next = number :=
    (congrArg (·.listeners.next) begun.list).symm.trans (congrArg Prod.fst joins)
  have own : (number, me) ∈ (others.subscribe me).entries :=
    numbered ▸ List.mem_append_right _ (List.mem_singleton_self _)
  obtain ⟨later, ⟨present, own⟩, stoodDuring⟩ :=
    spectators.run_present registered own civilDuring stays added
  have gone := spectators.perform present.civil (.unsubscribe number) stoodDuring
  rw [notesOf, ListAct.changes, shownWith, List.flatMap_nil, List.append_nil]
    at gone
  obtain ⟨_, _, stoodAfter⟩ :=
    spectators.run_absent (present.leave own) civilAfter gone
  refine ⟨?_, stoodDuring.record, stoodAfter.record.trans stoodDuring.record.symm,
    fun world index value beyond => list.insert_beyond deliver value beyond,
    fun world index beyond => list.remove_beyond deliver beyond⟩
  rw [stoodDuring.list]
  exact ListAct.allChanges_fit items during

/-! A host that writes down what it hears of a list, and what it sees of it. -/

def notebookHost : Host Notebook where
  respond _ call :=
    match call with
    | .list 0 change => modify fun world =>
      { world with host := world.host ++ [(change, (world.list ⟨0⟩).items)] }
    | _ => pure ()

/-- A list of one text, and no loops. -/
def notebookWorld : World Notebook :=
  { lists := ⟨#[⟨[.text "a"], .none⟩]⟩
    host := [] }

/-- Worlds with a list and without loops. -/
def Loopless (world : World σ) : Prop :=
  world.blocks.size = 0 ∧ world.items.size = 0 ∧ 0 < world.lists.size

/-- Where there are no loops, nothing is swept away. -/
theorem Loopless.sweep {world : World σ} (loopless : Loopless world) :
    world.sweep = world := by
  unfold World.sweep
  rw [loopless.1, loopless.2.1]
  rfl

/-- Where there are no loops, nothing changes when what was told of needs to be
kept no longer. -/
theorem Loopless.unpin {world after : World Notebook} {notes : Notebook}
    (loopless : Loopless after) (same : after.list list = world.list list)
    (written : after.host = world.host ++ notes) (things : List Owned) :
    LeftAlone Loopless list World.host notes world (after.unpin things) := by
  have kept :
      Loopless { after with pins := things.foldl List.erase after.pins } :=
    loopless
  unfold World.unpin
  rw [kept.sweep]
  exact ⟨kept, same, written⟩

/-- The host leaves the list alone, and one of its listeners writes down what it
hears and sees. -/
theorem notebookHost_spectators :
    Spectators (notebookHost.deliver 1) ⟨0⟩ Loopless
      (fun listener => ∃ number, listener = .host number) (.host 0)
      World.host where
  inside loopless := loopless.2.2
  tell {world listener} loopless polite change := by
    obtain ⟨number, rfl⟩ := polite
    unfold World.tell
    cases number with
    | zero =>
      rw [if_pos rfl]
      have written : Loopless { world with host :=
            world.host ++ [(change, (world.list ⟨0⟩).items)] } :=
        loopless
      refine written.unpin ?_ rfl _
      rfl
    | succ number =>
      rw [if_neg (by simp)]
      exact loopless.unpin rfl (List.append_nil world.host).symm _
  pin loopless things := ⟨loopless, rfl, (List.append_nil _).symm⟩
  sweep loopless := by
    rw [loopless.sweep]
    exact .refl loopless
  update loopless change := by
    refine ⟨⟨loopless.1, loopless.2.1, ?_⟩, rfl⟩
    change 0 < (Store.update _ _ _).size
    rw [Store.size_update]
    exact loopless.2.2

/-- The world after a text was appended and the listener registered. -/
def notebookJoined : World Notebook :=
  ((⟨0⟩ : ListId).subscribe (.host 0)
    (ListAct.performAll (notebookHost.deliver 1) ⟨0⟩ notebookWorld
      [.push (.text "b")])).2

/-- Of a text put in front and all others removed, the listener hears three
changes; of an index beyond the end and of what comes after it has gone, it
hears nothing. -/
theorem list_replayed_notebook :
    let heard := ListAct.performAll (notebookHost.deliver 1) ⟨0⟩ notebookJoined
      [.insert 0 (.text "c"), .remove 7, .truncate 1]
    Replays [.text "a", .text "b"]
        [.insert 0 (.text "c"), .remove 2 (.text "b"), .remove 1 (.text "a")]
        (heard.list ⟨0⟩).items ∧ heard.host =
        [(.insert 0 (.text "c"), [.text "c", .text "a", .text "b"]),
          (.remove 2 (.text "b"), [.text "c", .text "a"]),
          (.remove 1 (.text "a"), [.text "c"])] ∧
        (ListAct.performAll (notebookHost.deliver 1) ⟨0⟩
          ((⟨0⟩ : ListId).unsubscribe 0 heard).2 [.push (.text "d")]).host =
        heard.host := by
  intro heard
  have attended :
      Attended (fun listener => ∃ number, listener = .host number) (.host 0) 0
        (notebookWorld.list ⟨0⟩).listeners :=
    ⟨⟨nofun, .nil⟩, nofun, rfl⟩
  have civil : ∀ acts : List ListAct,
      (∀ act ∈ acts, ∀ listener, act ≠ .subscribe listener) →
      ∀ act ∈ acts,
        act.Civil (fun listener => ∃ number, listener = .host number)
          (.host 0) :=
    fun _ none act member listener same => absurd same (none act member listener)
  have loopless : Loopless notebookWorld := ⟨rfl, rfl, Nat.zero_lt_one⟩
  obtain ⟨replays, written, kept, _⟩ :=
    list_replayed notebookHost_spectators loopless attended ⟨0, rfl⟩
      (civil [.push (.text "b")] (by simp))
      (civil [.insert 0 (.text "c"), .remove 7, .truncate 1] (by simp))
      (civil [.push (.text "d")] (by simp)) rfl (by simp)
  exact ⟨replays, written, kept⟩

end LiveMarkup
