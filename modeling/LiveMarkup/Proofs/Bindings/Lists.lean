import LiveMarkup.Proofs.Trees.Sessions

/-!
# Lists to which nobody listens

Live properties listen to objects, and a list is none: it tells the loops that
show it, and the host.  Where neither listens, the elements of the list change
and nothing else does.  A live property that has read how many there are is not
evaluated, so what it shows is out of date until another of the properties it
reads changes.  `unheard_list_evaluates_nothing` says so of every row of
changes.
-/

namespace LiveMarkup

variable {σ : Type} {deliver : Deliver σ} {list : ListId}

namespace World

variable {world middle after : World σ}

/-- Nobody listens to a list. -/
def Unheard (world : World σ) (list : ListId) : Prop :=
  (world.list list).listeners.toList = []

/-- Of all there is, only the elements of a list may have changed. -/
structure OnlyElements (list : ListId) (world after : World σ) : Prop where
  others : ∀ other, other ≠ list → after.list other = world.list other
  listeners : (after.list list).listeners = (world.list list).listeners
  rest : { after with lists := world.lists, exhausted := world.exhausted } = world

theorem OnlyElements.refl (world : World σ) : OnlyElements list world world :=
  ⟨fun _ _ => rfl, rfl, rfl⟩

/-- Changes of the elements in a row are one change of them. -/
theorem OnlyElements.trans (first : OnlyElements list world middle)
    (second : OnlyElements list middle after) : OnlyElements list world after where
  others other apart := (second.others other apart).trans (first.others other apart)
  listeners := second.listeners.trans first.listeners
  rest := by
    have begun := first.rest
    have ended := second.rest
    rw [← ended] at begun
    exact begun

theorem OnlyElements.unheard (only : OnlyElements list world after)
    (unheard : world.Unheard list) : after.Unheard list :=
  (congrArg Listeners.toList only.listeners).trans unheard

/-- Live properties stay as they are, and the widget set is asked for nothing. -/
theorem OnlyElements.evaluates_nothing (only : OnlyElements list world after) :
    after.bindings = world.bindings ∧ after.widgets = world.widgets ∧
    after.journal = world.journal :=
  have bindings := congrArg World.bindings only.rest
  have widgets := congrArg World.widgets only.rest
  have journal := congrArg World.journal only.rest
  ⟨bindings, widgets, journal⟩

/-- To set the elements changes nothing else. -/
theorem onlyElements_setItems (world : World σ) (list : ListId)
    (items : List Value) :
    OnlyElements list world (list.setItems items world).2 where
  others other apart := by
    change (world.updateList list _).list other = _
    rw [list_updateList, if_neg fun same => apart same.1.symm]
  listeners := by
    change ((world.updateList list _).list list).listeners = _
    rw [list_updateList]
    split <;> rfl
  rest := rfl

theorem Unheard.emit (unheard : world.Unheard list) (change : ListChange) :
    (list.emit deliver change world).2 = world := by
  unfold ListId.emit
  simp only [Action.bind_apply, Action.get_apply]
  rw [unheard]
  rfl

end World

open World (OnlyElements Unheard)

variable {world : World σ}

/-- The elements of a list to which nobody listens are replaced, and the
announcement reaches nobody. -/
theorem World.Unheard.changeItems (unheard : world.Unheard list)
    (items : List Value) (change : ListChange) :
    OnlyElements list world
      (list.emit deliver change (list.setItems items world).2).2 := by
  have only := World.onlyElements_setItems world list items
  rw [(only.unheard unheard).emit]
  exact only

namespace ListId

variable (deliver)

theorem push_unheard (unheard : world.Unheard list) (value : Value) :
    OnlyElements list world (list.push deliver value world).2 := by
  unfold push
  simp only [Action.bind_apply, Action.get_apply]
  exact unheard.changeItems _ _

theorem extend_unheard (unheard : world.Unheard list) (values : List Value) :
    OnlyElements list world (list.extend deliver values world).2 := by
  induction values generalizing world with
  | nil => exact .refl world
  | cons value rest hypothesis =>
    have pushed := push_unheard deliver unheard value
    rw [extend, Action.bind_apply]
    exact pushed.trans (hypothesis (pushed.unheard unheard))

/-- An insertion into a list without listeners changes its elements only. -/
theorem insert_unheard (unheard : world.Unheard list) (index : Nat)
    (value : Value) :
    OnlyElements list world (list.insert deliver index value world).2 := by
  unfold insert
  rw [Action.bind_apply, Action.get_apply]
  dsimp only
  split
  · exact .refl world
  split
  · simp only [Action.bind_apply, Action.pure_apply]
    exact push_unheard deliver unheard value
  · simp only [Action.bind_apply, Action.pure_apply]
    exact unheard.changeItems _ _

/-- A removal does, too. -/
theorem remove_unheard (unheard : world.Unheard list) (index : Nat) :
    OnlyElements list world (list.remove deliver index world).2 := by
  unfold remove
  rw [Action.bind_apply, Action.get_apply]
  dsimp only
  cases (world.list list).items[index]? with
  | none => exact .refl world
  | some value =>
    simp only [Action.bind_apply, Action.pure_apply]
    exact unheard.changeItems _ _

/-- So does the removal of a value, wherever it is. -/
theorem removeItem_unheard (unheard : world.Unheard list) (value : Value) :
    OnlyElements list world (list.removeItem deliver value world).2 := by
  unfold removeItem
  rw [Action.bind_apply, Action.get_apply]
  dsimp only
  cases (world.list list).items.findIdx? (·.same value) with
  | none => exact .refl world
  | some index =>
    simp only [Action.bind_apply, Action.pure_apply]
    exact remove_unheard deliver unheard index

/-- And so does cutting a list short, however many elements go. -/
theorem cut_unheard (unheard : world.Unheard list) (length bound : Nat) :
    OnlyElements list world (list.cut deliver length bound world).2 := by
  induction bound generalizing world with
  | zero => exact ⟨fun _ _ => rfl, rfl, rfl⟩
  | succ bound hypothesis =>
    rw [cut, Action.bind_apply, Action.get_apply]
    dsimp only
    split
    · have removed :=
        remove_unheard deliver unheard ((world.list list).items.length - 1)
      rw [Action.bind_apply]
      exact removed.trans (hypothesis (removed.unheard unheard))
    · exact .refl world

end ListId

/-- An act that changes the elements of a list. -/
inductive Act.Rearranges (list : ListId) : Act σ → Prop where
  | push (value : Value) : Rearranges list (.push list value)
  | extend (values : List Value) : Rearranges list (.extend list values)
  | insert (index : Nat) (value : Value) :
      Rearranges list (.insert list index value)
  | remove (index : Nat) : Rearranges list (.remove list index)
  | removeItem (value : Value) : Rearranges list (.removeItem list value)
  | truncate (length : Nat) : Rearranges list (.truncate list length)

/-- Whatever act rearranges a list without listeners changes its elements only.
-/
theorem Act.Rearranges.perform_unheard (deliver : Deliver σ) {act : Act σ}
    (rearranges : act.Rearranges list) (unheard : world.Unheard list) :
    OnlyElements list world (act.perform deliver world) := by
  cases rearranges with
  | push value => exact ListId.push_unheard deliver unheard value
  | extend values => exact ListId.extend_unheard deliver unheard values
  | insert index value => exact ListId.insert_unheard deliver unheard index value
  | remove index => exact ListId.remove_unheard deliver unheard index
  | removeItem value => exact ListId.removeItem_unheard deliver unheard value
  | truncate length => exact ListId.cut_unheard deliver unheard length _

/-- However the elements of a list to which nobody listens are changed, one act
after the other, live properties stay as they are, also those that have read how
many elements there are. -/
theorem unheard_list_evaluates_nothing (deliver : Deliver σ)
    (unheard : world.Unheard list) (acts : List (Act σ))
    (rearrange : ∀ act ∈ acts, act.Rearranges list) :
    (acts.foldl (Act.perform deliver) world).bindings = world.bindings ∧
    (acts.foldl (Act.perform deliver) world).widgets = world.widgets ∧
    (acts.foldl (Act.perform deliver) world).journal = world.journal := by
  have only : OnlyElements list world (acts.foldl (Act.perform deliver) world) := by
    induction acts generalizing world with
    | nil => exact .refl world
    | cons act rest hypothesis =>
      have first :=
        (rearrange act (List.mem_cons_self ..)).perform_unheard deliver unheard
      exact first.trans (hypothesis (first.unheard unheard)
        fun other member => rearrange other (List.mem_cons_of_mem _ member))
  exact only.evaluates_nothing

end LiveMarkup
