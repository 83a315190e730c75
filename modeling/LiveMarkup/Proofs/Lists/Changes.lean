import Mathlib
import LiveMarkup.World

/-!
# The changes of a list

What a change that is told does to the elements of a list, and which changes
each operation on a list makes. The changes of an operation fit: told one after
the other, each of them speaks of elements that are there.
-/

namespace LiveMarkup

/-! ## Changes -/

namespace ListChange

/-- The elements after a change. -/
def apply (items : List Value) : ListChange → List Value
  | .add _ value => items ++ [value]
  | .insert index value => items.take index ++ value :: items.drop index
  | .remove index _ => items.eraseIdx index

/-- A change that speaks of elements that are there: what is appended comes
after the last element, what is inserted comes before one, and what is removed
is named. -/
def Fits (items : List Value) : ListChange → Prop
  | .add index _ => index = items.length
  | .insert index _ => index < items.length
  | .remove index value => items[index]? = some value

end ListChange

/-- The elements after several changes. -/
def applyChanges (items : List Value) (changes : List ListChange) : List Value :=
  changes.foldl ListChange.apply items

/-- Changes that lead from some elements to others, each of them fitting when it
is told. -/
inductive Replays : List Value → List ListChange → List Value → Prop where
  | done (items : List Value) : Replays items [] items
  | step {items last : List Value} {change : ListChange}
      {rest : List ListChange} (fits : change.Fits items)
      (replays : Replays (change.apply items) rest last) :
      Replays items (change :: rest) last

/-- Changes together with the elements that each of them leads to. -/
def shownWith (items : List Value) :
    List ListChange → List (ListChange × List Value)
  | [] => []
  | change :: rest =>
    (change, change.apply items) :: shownWith (change.apply items) rest

theorem applyChanges_append (items : List Value)
    (first second : List ListChange) :
    applyChanges items (first ++ second) =
      applyChanges (applyChanges items first) second :=
  List.foldl_append

/-- Changes in a row show the list as it is after each of them. -/
theorem shownWith_append (items : List Value) (first second : List ListChange) :
    shownWith items (first ++ second) =
      shownWith items first ++ shownWith (applyChanges items first) second := by
  induction first generalizing items with
  | nil => rfl
  | cons change rest hypothesis =>
    change (change, change.apply items) ::
      shownWith (change.apply items) (rest ++ second) = _
    rw [hypothesis]
    rfl

namespace Replays

variable {items middle last : List Value} {first second : List ListChange}

theorem single {change : ListChange} (fits : change.Fits items) :
    Replays items [change] (change.apply items) :=
  .step fits (.done _)

theorem append (replays : Replays items first middle)
    (more : Replays middle second last) :
    Replays items (first ++ second) last := by
  induction replays with
  | done => exact more
  | step fits _ hypothesis => exact .step fits (hypothesis more)

theorem applyChanges_eq (replays : Replays items first last) :
    applyChanges items first = last := by
  induction replays with
  | done => rfl
  | step _ _ hypothesis => exact hypothesis

end Replays

/-! ## Operations -/

/-- What can be done to a list, and who comes and goes as a listener. -/
inductive ListAct where
  | push (value : Value)
  | extend (values : List Value)
  | insert (index : Nat) (value : Value)
  | remove (index : Nat)
  | removeItem (value : Value)
  | truncate (length : Nat)
  | clear
  | subscribe (listener : ListListener)
  | unsubscribe (number : Nat)

/-- The change that appends a value. -/
def appending (items : List Value) (value : Value) : List ListChange :=
  [.add items.length value]

/-- The changes that append values one after the other. -/
def extending (items : List Value) : List Value → List ListChange
  | [] => []
  | value :: rest => .add items.length value :: extending (items ++ [value]) rest

/-- The change that removes the element at an index, if there is one. -/
def removing (items : List Value) (index : Nat) : List ListChange :=
  (items[index]?.map (.remove index)).toList

/-- The changes that remove all elements from an index on, last first. -/
def cutting (items : List Value) (length : Nat) : List ListChange :=
  ((items.zipIdx.drop length).map fun (value, index) => .remove index value).reverse

namespace ListAct

/-- The changes that an operation makes. -/
def changes (items : List Value) : ListAct → List ListChange
  | .push value => appending items value
  | .extend values => extending items values
  | .insert index value =>
    if items.length < index then []
    else if index = items.length then appending items value
    else [.insert index value]
  | .remove index => removing items index
  | .removeItem value =>
    ((items.findIdx? (·.same value)).map (removing items)).getD []
  | .truncate length => cutting items length
  | .clear => cutting items 0
  | .subscribe _ | .unsubscribe _ => []

/-- The listeners after an operation. -/
def listeners (old : Listeners ListListener) : ListAct → Listeners ListListener
  | .subscribe listener => old.subscribe listener
  | .unsubscribe number => old.unsubscribe number
  | _ => old

/-- The changes that operations make one after the other. -/
def allChanges (items : List Value) : List ListAct → List ListChange
  | [] => []
  | act :: rest =>
    act.changes items ++ allChanges
      (applyChanges items (act.changes items)) rest

end ListAct

/-! ## The changes of an operation fit -/

theorem appending_fits (items : List Value) (value : Value) :
    Replays items (appending items value) (items ++ [value]) :=
  .single rfl

/-- Values are appended one by one, and replaying that leads to the extended
list. -/
theorem extending_fits (items values : List Value) :
    Replays items (extending items values) (items ++ values) := by
  induction values generalizing items with
  | nil =>
    rw [List.append_nil]
    exact .done items
  | cons value rest hypothesis =>
    rw [List.append_cons]
    exact .step rfl (hypothesis _)

theorem removing_fits (items : List Value) (index : Nat) :
    Replays items (removing items index) (items.eraseIdx index) := by
  unfold removing
  cases found : items[index]? with
  | none =>
    rw [List.eraseIdx_of_length_le (List.getElem?_eq_none_iff.mp found)]
    exact .done items
  | some value => exact .single found

theorem cutting_of_le {items : List Value} {length : Nat}
    (short : items.length ≤ length) : cutting items length = [] := by
  unfold cutting
  rw [List.drop_of_length_le (by rwa [List.length_zipIdx])]
  rfl

/-- The last element goes first, and then the rest in the same way. -/
theorem cutting_of_lt {items : List Value} {length : Nat}
    (long : length < items.length) :
    cutting items length =
      removing items (items.length - 1) ++
        cutting (applyChanges items (removing items (items.length - 1)))
        length := by
  rw [(removing_fits items _).applyChanges_eq]
  cases items using List.reverseRecOn with
  | nil => cases long
  | append_singleton init last =>
    rw [List.length_append, List.length_singleton] at long
    have lastIndex : (init ++ [last]).length - 1 = init.length := by
      rw [List.length_append, List.length_singleton, Nat.add_sub_cancel]
    have rest : (init ++ [last]).eraseIdx init.length = init := by
      rw [List.eraseIdx_append_of_length_le (Nat.le_refl _), Nat.sub_self]
      exact List.append_nil init
    have within : length ≤ init.zipIdx.length := by
      rw [List.length_zipIdx]
      exact Nat.le_of_lt_succ long
    rw [lastIndex, rest, removing, List.getElem?_concat_length]
    unfold cutting
    rw [List.zipIdx_append, List.drop_append_of_le_length within,
      List.map_append, List.reverse_append, Nat.zero_add]
    rfl

/-- The removals that cut a list short fit, one after the other. -/
theorem cutting_fits (items : List Value) (length : Nat) :
    ∃ last, Replays items (cutting items length) last := by
  rcases Nat.lt_or_ge length items.length with long | short
  · have first := removing_fits items (items.length - 1)
    rw [cutting_of_lt long, first.applyChanges_eq]
    obtain ⟨last, rest⟩ := cutting_fits (items.eraseIdx (items.length - 1)) length
    exact ⟨last, first.append rest⟩
  · rw [cutting_of_le short]
    exact ⟨items, .done items⟩
termination_by items.length
decreasing_by
  rw [List.length_eraseIdx_of_lt (by omega)]
  omega

/-- The changes of an operation fit, whichever it is. -/
theorem ListAct.changes_fit (items : List Value) (act : ListAct) :
    Replays items (act.changes items) (applyChanges items (act.changes items)) := by
  have fits : ∃ last, Replays items (act.changes items) last := by
    cases act with
    | push value => exact ⟨_, appending_fits items value⟩
    | extend values => exact ⟨_, extending_fits items values⟩
    | insert index value =>
      simp only [changes]
      split
      · exact ⟨_, .done items⟩
      · split
        · exact ⟨_, appending_fits items value⟩
        · exact ⟨_, .single (by simp only [ListChange.Fits]; omega)⟩
    | remove index => exact ⟨_, removing_fits items index⟩
    | removeItem value =>
      simp only [changes]
      cases items.findIdx? (·.same value) with
      | none => exact ⟨_, .done items⟩
      | some index => exact ⟨_, removing_fits items index⟩
    | truncate length => exact cutting_fits items length
    | clear => exact cutting_fits items 0
    | subscribe listener => exact ⟨_, .done items⟩
    | unsubscribe number => exact ⟨_, .done items⟩
  obtain ⟨last, replays⟩ := fits
  rw [replays.applyChanges_eq]
  exact replays

/-- The changes of several operations fit, told one after the other. -/
theorem ListAct.allChanges_fit (items : List Value) (acts : List ListAct) :
    Replays items (allChanges items acts)
      (applyChanges items (allChanges items acts)) := by
  induction acts generalizing items with
  | nil => exact .done items
  | cons act rest hypothesis =>
    rw [allChanges, applyChanges_append]
    exact (act.changes_fit items).append (hypothesis _)

end LiveMarkup
