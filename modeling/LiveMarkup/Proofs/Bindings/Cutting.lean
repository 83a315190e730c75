import LiveMarkup.World.Ownership
import LiveMarkup.Proofs.Bindings.Wiring

/-!
# Undoing registrations

Cancelling records takes listeners away and nothing else.  Which live properties
lose listeners is known from the records: cancelling those of one live property
leaves the listeners of all others, and a sweep takes them only from live
properties that no document or loop item keeps any more.
-/

namespace LiveMarkup.World

variable {σ : Type}

/-- Listeners were taken away, those of live properties only if these are lost. -/
structure Cuts (lost : BindingId → Prop) (world after : World σ) : Prop where
  content : world.SameContent after
  rest : after = { world with
    bags := after.bags
    widgets := after.widgets
    lists := after.lists
    bindings := after.bindings
    items := after.items
    blocks := after.blocks }
  listCount : after.lists.size = world.lists.size
  listItems : ∀ id, (after.list id).items = (world.list id).items
  bindingCount : after.bindings.size = world.bindings.size
  next : ∀ post, (after.listenersAt post).next = (world.listenersAt post).next
  fewer : ∀ post,
      (after.listenersAt post).entries.Sublist (world.listenersAt post).entries
  keeps : ∀ post, ∀ entry ∈ (world.listenersAt post).entries,
      (∀ id generation property,
        entry.2 = .binding id generation property → ¬ lost id) →
      entry ∈ (after.listenersAt post).entries
  bindings : ∀ id, ∃ cut : List Subscription → List Subscription,
      (∀ records, cut records ⊆ records) ∧
      after.binding? id = (world.binding? id).map fun binding =>
        { binding with subscriptions := cut binding.subscriptions }
  kept : ∀ keeper, after.kept keeper ⊆ world.kept keeper
  blocks : ∀ id block,
      after.block? id = some block →
      ∃ old,
        world.block? id = some old ∧
        block = { old with items := block.items, live := block.live }

namespace Cuts

variable {lost : BindingId → Prop} {world middle after : World σ}

theorem refl (lost : BindingId → Prop) (world : World σ) :
    Cuts lost world world where
  content := .refl world
  rest := rfl
  listCount := rfl
  listItems _ := rfl
  bindingCount := rfl
  next _ := rfl
  fewer _ := List.Sublist.refl _
  keeps _ _ member _ := member
  bindings id :=
    ⟨fun records => records, fun _ => List.Subset.refl _,
      by cases world.binding? id <;> rfl⟩
  kept _ := List.Subset.refl _
  blocks _ block found := ⟨block, found, rfl⟩

/-- What two steps in a row cut off has been cut off by both together. -/
theorem trans (first : Cuts lost world middle) (second : Cuts lost middle after) :
    Cuts lost world after where
  content := first.content.trans second.content
  rest := by rw [second.rest, first.rest]
  listCount := second.listCount.trans first.listCount
  listItems id := (second.listItems id).trans (first.listItems id)
  bindingCount := second.bindingCount.trans first.bindingCount
  next post := (second.next post).trans (first.next post)
  fewer post := (second.fewer post).trans (first.fewer post)
  keeps post entry member spared :=
    second.keeps post entry (first.keeps post entry member spared) spared
  bindings id := by
    obtain ⟨cut, shrinks, found⟩ := first.bindings id
    obtain ⟨again, shrinksAgain, foundAgain⟩ := second.bindings id
    refine ⟨again ∘ cut, fun records =>
      List.Subset.trans (shrinksAgain _) (shrinks records), ?_⟩
    rw [foundAgain, found]
    cases world.binding? id <;> rfl
  kept keeper := List.Subset.trans (second.kept keeper) (first.kept keeper)
  blocks id block found := by
    obtain ⟨between, foundBetween, same⟩ := second.blocks id block found
    obtain ⟨old, foundOld, sameOld⟩ := first.blocks id between foundBetween
    refine ⟨old, foundOld, ?_⟩
    rw [same, sameOld]

theorem mono {more : BindingId → Prop} (cuts : Cuts lost world after)
    (includes : ∀ id, lost id → more id) : Cuts more world after :=
  { cuts with
    keeps := fun post entry member spared =>
      cuts.keeps post entry member fun id generation property same isLost =>
        spared id generation property same (includes id isLost) }

theorem handles (cuts : Cuts lost world after) : after.handles = world.handles := by
  rw [cuts.rest]

theorem handle (cuts : Cuts lost world after) (id : HandleId) :
    after.handle id = world.handle id := by
  simp only [World.handle, cuts.handles]

theorem announcer (cuts : Cuts lost world after) (object : ObjectId) :
    after.announcer object = world.announcer object := by
  cases object with
  | bag id => rfl
  | widget id => rfl
  | handle id => simp only [World.announcer, cuts.handle]

theorem has (cuts : Cuts lost world after) (object : ObjectId) :
    after.Has object ↔ world.Has object := by
  cases object with
  | bag id => simp only [World.Has, cuts.content.bagCount]
  | widget id => simp only [World.Has, cuts.content.widgetCount]
  | handle id => simp only [World.Has, cuts.handles]

/-- What a live property has registered stays its own. -/
theorem belongs (cuts : Cuts lost world after) {id : BindingId}
    {record : Subscription} (own : world.Belongs id record) :
    after.Belongs id record := by
  obtain ⟨object, number, rfl, has, below, only⟩ := own
  refine ⟨object, number, rfl, (cuts.has object).mpr has, ?_, ?_⟩
  · rw [cuts.announcer, cuts.next]
    exact below
  · intro listener member
    rw [cuts.announcer] at member
    exact only listener ((cuts.fewer _).subset member)

/-- The live property before the cut. -/
theorem binding_before (cuts : Cuts lost world after) {id : BindingId}
    {binding : LiveBinding} (found : after.binding? id = some binding) :
    ∃ old,
      world.binding? id = some old ∧
      binding.subscriptions ⊆ old.subscriptions ∧
      binding = { old with subscriptions := binding.subscriptions } := by
  obtain ⟨cut, shrinks, same⟩ := cuts.bindings id
  rw [same] at found
  obtain ⟨old, foundOld, rfl⟩ := Option.map_eq_some_iff.mp found
  exact ⟨old, foundOld, shrinks _, rfl⟩

/-- The live property after the cut. -/
theorem binding_after (cuts : Cuts lost world after) {id : BindingId}
    {binding : LiveBinding} (found : world.binding? id = some binding) :
    ∃ left,
      after.binding? id = some { binding with subscriptions := left } := by
  obtain ⟨cut, _, same⟩ := cuts.bindings id
  refine ⟨cut binding.subscriptions, ?_⟩
  rw [same, found]
  rfl

theorem recorded (cuts : Cuts lost world after) {id : BindingId}
    (recorded : after.Recorded id) : world.Recorded id := by
  obtain ⟨keeper, member⟩ := recorded
  exact ⟨keeper, cuts.kept keeper member⟩

/-- Listeners and records still fit together. -/
theorem wired (cuts : Cuts lost world after) (wired : world.Wired) :
    after.Wired where
  ordered post := by
    refine ⟨fun entry member => ?_, ?_⟩
    · rw [cuts.next]
      exact (wired.ordered post).below entry ((cuts.fewer post).subset member)
    · exact (wired.ordered post).distinct.sublist ((cuts.fewer post).map Prod.fst)
  heard post number id generation property member := by
    obtain ⟨binding, found, before, current⟩ :=
      wired.heard post number id generation property
        ((cuts.fewer post).subset member)
    obtain ⟨left, foundAfter⟩ := cuts.binding_after found
    refine ⟨_, foundAfter, before, fun now => ?_⟩
    obtain ⟨object, announced, watched⟩ := current now
    exact ⟨object, (cuts.announcer object).trans announced, watched⟩
  records id binding found record member := by
    obtain ⟨old, foundOld, fewer, _⟩ := cuts.binding_before found
    exact cuts.belongs (wired.records id old foundOld record (fewer member))
  watched id binding found slot member := by
    obtain ⟨old, foundOld, _, same⟩ := cuts.binding_before found
    rw [same] at member ⊢
    have present := wired.watched id old foundOld slot member
    exact ⟨(cuts.has slot.1).mpr present.1, present.2⟩
  keepers keeper record member := by
    rw [cuts.bindingCount]
    exact wired.keepers keeper record (cuts.kept keeper member)
  single id keeper other member otherMember :=
    wired.single id keeper other (cuts.kept keeper member)
      (cuts.kept other otherMember)

/-- A live property that is not lost listens to as much as before. -/
theorem covered (cuts : Cuts lost world after) {id : BindingId} (spared : ¬ lost id)
    (covered : world.Covered id) : after.Covered id := by
  intro binding found slot member
  obtain ⟨old, foundOld, _, same⟩ := cuts.binding_before found
  rw [same] at member ⊢
  obtain ⟨number, entry⟩ := covered old foundOld slot member
  refine ⟨number, ?_⟩
  rw [cuts.announcer]
  refine cuts.keeps _ _ entry ?_
  rintro other generation property equal
  cases equal
  exact spared

end Cuts

variable {world : World σ}

/-! ## Cancelling -/

/-- A list loses one of its listeners, and no live property listens to lists. -/
theorem cuts_cancelList (lost : BindingId → Prop) (world : World σ)
    (id : ListId) (number : Nat) :
    Cuts lost world (world.cancelListener (.list id number)) where
  content := ⟨rfl, rfl, fun _ => rfl, fun _ => rfl⟩
  rest := rfl
  listCount := Store.size_update ..
  listItems other := by
    simp only [cancelListener, list_updateList]
    split <;> rfl
  bindingCount := rfl
  next _ := rfl
  fewer _ := List.Sublist.refl _
  keeps _ _ member _ := member
  bindings id := ⟨fun records => records, fun _ => List.Subset.refl _, by
    cases found : world.binding? id <;> exact found⟩
  kept _ := List.Subset.refl _
  blocks _ block found := ⟨block, found, rfl⟩

/-- Cancelling a registration with an object takes only the listener of its
number. -/
theorem cuts_cancelObject {lost : BindingId → Prop} {object : ObjectId}
    {number : Nat}
    (own : ∀ listener,
      (number, listener) ∈ (world.listenersAt (world.announcer object)).entries →
        ∃ id generation property,
          listener = .binding id generation property ∧ lost id) :
    Cuts lost world (world.cancelListener (.object object number)) := by
  rw [cancelListener, updatePropertyListeners_eq]
  have content := world.sameContent_updateListenersAt (world.announcer object)
    (·.unsubscribe number)
  have listeners : ∀ post,
      ((world.updateListenersAt (world.announcer object)
         (·.unsubscribe number)).listenersAt post) = world.listenersAt post ∨
      (post = world.announcer object ∧
       (world.updateListenersAt (world.announcer object)
         (·.unsubscribe number)).listenersAt post =
         (world.listenersAt post).unsubscribe number) := by
    intro post
    by_cases here : world.announcer object = post
    · subst here
      by_cases present : world.HasPost (world.announcer object)
      · exact .inr ⟨rfl, listenersAt_updateListenersAt_self present _⟩
      · exact .inl (listenersAt_updateListenersAt_of_not present _ _)
    · exact .inl (listenersAt_updateListenersAt_of_ne here _)
  refine { content, rest := ?_, listCount := ?_, listItems := ?_,
           bindingCount := ?_, next := ?_,
           fewer := ?_, keeps := ?_, bindings := ?_, kept := ?_, blocks := ?_ }
  · cases world.announcer object <;> rfl
  · cases world.announcer object <;> rfl
  · cases world.announcer object <;> exact fun _ => rfl
  · cases world.announcer object <;> rfl
  · intro post
    rcases listeners post with same | ⟨_, same⟩ <;> rw [same]
    rfl
  · intro post
    rcases listeners post with same | ⟨_, same⟩
    · exact same ▸ List.Sublist.refl _
    · exact same ▸ List.eraseP_sublist ..
  · intro post entry member spared
    rcases listeners post with same | ⟨here, same⟩ <;> rw [same]
    · exact member
    · refine Listeners.mem_unsubscribe member fun equal => ?_
      subst here
      obtain ⟨id, generation, property, listener, gone⟩ :=
        own entry.2 (equal ▸ member)
      exact spared id generation property listener gone
  · intro id
    refine ⟨fun records => records, fun _ => List.Subset.refl _, ?_⟩
    cases world.announcer object <;> cases found : world.binding? id <;> exact found
  · cases world.announcer object <;> exact fun keeper => List.Subset.refl _
  · cases world.announcer object <;> exact fun _ block found => ⟨block, found, rfl⟩

theorem cuts_cancelOwn {id : BindingId} {record : Subscription}
    (own : world.Belongs id record) :
    Cuts (· = id) world (world.cancelListener record) := by
  obtain ⟨object, number, rfl, _, _, only⟩ := own
  refine cuts_cancelObject fun listener member => ?_
  obtain ⟨generation, property, equal⟩ := only listener member
  exact ⟨id, generation, property, equal, rfl⟩

/-- Records of one live property are cancelled one by one. -/
theorem cuts_cancelOwns {id : BindingId} (records : List Subscription)
    (world : World σ) (own : ∀ record ∈ records, world.Belongs id record) :
    Cuts (· = id) world (records.foldl cancelListener world) := by
  induction records generalizing world with
  | nil => exact .refl _ world
  | cons record rest hypothesis =>
    have first := cuts_cancelOwn (own record (List.mem_cons_self ..))
    exact first.trans (hypothesis _ fun other member =>
      first.belongs (own other (List.mem_cons_of_mem _ member)))

/-- A live property forgets its records, and everybody else keeps theirs. -/
theorem cuts_clearRecords (world : World σ) (id : BindingId) :
    Cuts (· = id) world
      (world.updateBinding id fun old => { old with subscriptions := [] }) where
  content := ⟨rfl, rfl, fun _ => rfl, fun _ => rfl⟩
  rest := rfl
  listCount := rfl
  listItems _ := rfl
  bindingCount := Store.size_update ..
  next _ := rfl
  fewer _ := List.Sublist.refl _
  keeps _ _ member _ := member
  bindings other := by
    rw [binding?_updateBinding]
    split
    · exact ⟨fun _ => [], fun _ => List.nil_subset _, rfl⟩
    · refine ⟨fun records => records, fun _ => List.Subset.refl _, ?_⟩
      cases world.binding? other <;> rfl
  kept _ := List.Subset.refl _
  blocks _ block found := ⟨block, found, rfl⟩

/-- Undoing everything that a live property has registered leaves all other live
properties listening. -/
theorem Wired.cuts_cancelBinding (wired : world.Wired) (id : BindingId) :
    Cuts (· = id) world (world.cancelBinding id) := by
  unfold cancelBinding
  split
  · exact .refl _ world
  case h_2 binding found =>
    have cleared := cuts_clearRecords world id
    exact cleared.trans (cuts_cancelOwns _ _ fun record member =>
      cleared.belongs (wired.records id binding found record member))

/-- Whether a record is one of a document or a loop item: of a list or of a live
property. -/
def IsKeepers : Subscription → Prop
  | .object _ _ => False
  | _ => True

theorem Wired.isKeepers (wired : world.Wired) {keeper : SubscriptionKeeper}
    {record : Subscription} (member : record ∈ world.kept keeper) :
    IsKeepers record := by
  rcases wired.keepers keeper record member with ⟨list, number, rfl⟩ |
    ⟨id, rfl, _⟩ <;> trivial

theorem Wired.cuts_cancel (wired : world.Wired) {record : Subscription}
    (shape : IsKeepers record) :
    Cuts (fun id => record = .binding id) world (world.cancel record) := by
  cases record with
  | object => exact shape.elim
  | list id number => exact cuts_cancelList _ world id number
  | binding id =>
    exact (wired.cuts_cancelBinding id).mono fun other same => same ▸ rfl

/-- Records that loops, items and documents keep are cancelled one by one; the
live properties among them go. -/
theorem Wired.cuts_cancels (records : List Subscription) (world : World σ)
    (wired : world.Wired) (shape : ∀ record ∈ records, IsKeepers record) :
    Cuts (fun id => .binding id ∈ records) world
      (records.foldl cancel world) := by
  induction records generalizing world with
  | nil => exact .refl _ world
  | cons record rest hypothesis =>
    have first := wired.cuts_cancel (shape record (List.mem_cons_self ..))
    have others := hypothesis _ (first.wired wired) fun other member =>
      shape other (List.mem_cons_of_mem _ member)
    exact (first.mono fun id same => same ▸ List.mem_cons_self ..).trans
      (others.mono fun id member => List.mem_cons_of_mem _ member)

/-! ## Releasing -/

/-- An item that keeps no more than before changes nothing else. -/
theorem cuts_updateItem (lost : BindingId → Prop) (world : World σ)
    (id : ItemId) (change : Item → Item)
    (fewer : ∀ item, (change item).subscriptions ⊆ item.subscriptions) :
    Cuts lost world (world.updateItem id change) where
  content := ⟨rfl, rfl, fun _ => rfl, fun _ => rfl⟩
  rest := rfl
  listCount := rfl
  listItems _ := rfl
  bindingCount := rfl
  next _ := rfl
  fewer _ := List.Sublist.refl _
  keeps _ _ member _ := member
  bindings id := ⟨fun records => records, fun _ => List.Subset.refl _, by
    cases found : world.binding? id <;> exact found⟩
  kept keeper := by
    cases keeper with
    | handle => exact List.Subset.refl _
    | item other =>
      simp only [World.kept, item_updateItem]
      split
      · exact fewer _
      · exact List.Subset.refl _
  blocks _ block found := ⟨block, found, rfl⟩

/-- A loop that is released takes its registration with it and nothing else. -/
theorem cuts_releaseBlock (lost : BindingId → Prop) (world : World σ)
    (id : BlockId) : Cuts lost world (world.releaseBlock id) where
  content := ⟨rfl, rfl, fun _ => rfl, fun _ => rfl⟩
  rest := rfl
  listCount := rfl
  listItems _ := rfl
  bindingCount := rfl
  next _ := rfl
  fewer _ := List.Sublist.refl _
  keeps _ _ member _ := member
  bindings id := ⟨fun records => records, fun _ => List.Subset.refl _, by
    cases found : world.binding? id <;> exact found⟩
  kept _ := List.Subset.refl _
  blocks other block found := by
    rw [releaseBlock, block?_updateBlock] at found
    split at found
    · obtain ⟨old, foundOld, rfl⟩ := Option.map_eq_some_iff.mp found
      exact ⟨old, foundOld, rfl⟩
    · exact ⟨block, found, rfl⟩

/-- Cuts that take listeners only from what is not recorded any more. -/
def Sweeps (world after : World σ) : Prop :=
  Cuts (fun id => ¬ after.Recorded id) world after

theorem Sweeps.trans {first second third : World σ} (left : Sweeps first second)
    (right : Sweeps second third) : Sweeps first third :=
  Cuts.trans (Cuts.mono left fun _ gone recorded =>
    gone (Cuts.recorded right recorded)) right

/-- An item that is released gives up its records, and the live properties among
these are gone. -/
theorem Wired.sweeps_releaseItem (wired : world.Wired) (id : ItemId) :
    Sweeps world (world.releaseItem id) := by
  have cleared :
      Cuts (fun binding => .binding binding ∈ world.kept (.item id)) world
        (world.updateItem id fun old => { old with subscriptions := [] }) :=
    cuts_updateItem _ world id _ fun _ => List.nil_subset _
  have cancelled :=
    Wired.cuts_cancels (world.kept (.item id)) _ (cleared.wired wired)
      fun record member => wired.isKeepers member
  have released :=
    cuts_updateItem (fun binding => .binding binding ∈ world.kept (.item id))
      (world.cancelItem id) id
      (fun old => { old with widgets := [], nested := [], live := false })
      fun _ => List.Subset.refl _
  have whole : Cuts (fun binding => .binding binding ∈ world.kept (.item id)) world
      (world.releaseItem id) := (cleared.trans cancelled).trans released
  refine whole.mono fun binding member recorded => ?_
  obtain ⟨keeper, still⟩ := recorded
  have own :=
    wired.single binding keeper (.item id) (whole.kept keeper still) member
  subst own
  -- the records of the item itself are gone
  have gone :
      (world.updateItem id fun old => { old with subscriptions := [] }).kept
        (.item id) = [] := by
    simp only [kept, item_updateItem]
    split
    · rfl
    case isFalse absent =>
      have nothing := Store.get?_of_not_lt fun inside => absent ⟨trivial, inside⟩
      simp only [item, nothing]
      rfl
  have empty := (cancelled.trans released).kept (.item id) still
  rw [gone] at empty
  cases empty

/-- Releasing things in a row sweeps away what each of them keeps. -/
theorem sweeps_foldl {α : Type} (release : World σ → α → World σ)
    (step :
      ∀ (world : World σ) (id : α),
        world.Wired → Sweeps world (release world id)) (ids : List α)
    (world : World σ) (wired : world.Wired) :
    Sweeps world (ids.foldl release world) := by
  induction ids generalizing world with
  | nil => exact .refl _ world
  | cons id rest hypothesis =>
    have first := step world id wired
    exact first.trans (hypothesis _ (Cuts.wired first wired))

/-- To sweep in rounds does no more than its rounds do. -/
theorem Wired.sweeps_sweepWithin (rounds : Nat) (world : World σ)
    (wired : world.Wired) : Sweeps world (sweepWithin rounds world) := by
  induction rounds generalizing world with
  | zero => exact .refl _ world
  | succ rounds hypothesis =>
    rw [sweepWithin]
    split
    · exact .refl _ world
    · have blocks :=
        sweeps_foldl releaseBlock
          (fun world id _ => cuts_releaseBlock _ world id)
          world.unownedBlocks world wired
      have items :=
        sweeps_foldl releaseItem
          (fun world id wired => wired.sweeps_releaseItem id) world.unownedItems
          _ (Cuts.wired blocks wired)
      have both := blocks.trans items
      exact both.trans (hypothesis _ (Cuts.wired both wired))

/-- A sweep takes listeners only from live properties that nothing keeps a
record of any more. -/
theorem Wired.sweeps_sweep (wired : world.Wired) : Sweeps world world.sweep :=
  wired.sweeps_sweepWithin _ world

end LiveMarkup.World
