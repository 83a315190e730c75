import LiveMarkup.Proofs.Traces.Components
import LiveMarkup.Proofs.World.Outcomes

/-!
# Ending new documents

A new document that is taken down takes its imports with it, undoes its records
and gives up its root. Whatever was rendered before stays as it is.
-/

namespace LiveMarkup.World

variable {σ : Type} {start world middle after : World σ} {host : WidgetId}
  {deliver : Deliver σ}
  {opened fewer : List HandleId} {first : Nat} {id : HandleId}

/-! ## Documents that stay as they are -/

/-- What a document imports and keeps, and its root, are as they were. -/
structure Alike (world after : World σ) (id : HandleId) : Prop where
  imports : (after.handle id).imports = (world.handle id).imports
  subscriptions : (after.handle id).subscriptions = (world.handle id).subscriptions
  root : (after.handle id).root = (world.handle id).root

theorem Alike.of_eq (same : after.handle id = world.handle id) :
    Alike world after id := by
  constructor <;> rw [same]

theorem Alike.trans (left : Alike world middle id) (right : Alike middle after id) :
    Alike world after id :=
  ⟨right.imports.trans left.imports, right.subscriptions.trans left.subscriptions,
    right.root.trans left.root⟩

theorem Alike.ended (alike : Alike world after id) (ended : world.Ended id) :
    after.Ended id :=
  ⟨alike.imports.trans ended.imports, alike.subscriptions.trans ended.subscriptions,
    alike.root.trans ended.root⟩

theorem ended_of_not_lt (outside : ¬ id.index < world.handles.size) :
    world.Ended id := by
  constructor <;> rw [handle_of_not_lt outside] <;> rfl

/-- Documents before a certain one are as they were; others may have changed, or
come. -/
structure Moves (host : WidgetId) (start : World σ) (first : Nat)
    (world after : World σ) : Prop where
  good : Good host start after
  pins : after.pins = world.pins
  handleCount : world.handles.size ≤ after.handles.size
  widgetCount : world.widgets.size ≤ after.widgets.size
  topControllers : world.topControllers <+: after.topControllers
  earlier : ∀ id, id.index < first → Alike world after id

theorem Moves.refl (good : Good host start world) (first : Nat) :
    Moves host start first world world :=
  ⟨good, rfl, Nat.le_refl _, Nat.le_refl _, List.prefix_refl _,
    fun _ _ => .of_eq rfl⟩

/-- Steps that leave the earlier documents alone may follow one another. -/
theorem Moves.trans (left : Moves host start first world middle)
    (right : Moves host start first middle after) :
    Moves host start first world after where
  good := right.good
  pins := right.pins.trans left.pins
  handleCount := Nat.le_trans left.handleCount right.handleCount
  widgetCount := Nat.le_trans left.widgetCount right.widgetCount
  topControllers := left.topControllers.trans right.topControllers
  earlier id before := (left.earlier id before).trans (right.earlier id before)

theorem Moves.mono {later : Nat} (moves : Moves host start later world after)
    (lower : first ≤ later) : Moves host start first world after :=
  { moves with earlier := fun id before =>
    moves.earlier id (Nat.lt_of_lt_of_le before lower) }

theorem handle_release (wired : after.Wired) (pins : List Owned) (id : HandleId) :
    (after.release pins).handle id = after.handle id := by
  have same : SameState after { after with pins } := rfl
  rw [release, Cuts.handle (same.transition.wired wired).sweeps_sweep]
  rfl

/-- The end of an operation during which documents have changed, or come. -/
theorem Moves.release {things : List Owned}
    (moves : Moves host start first (world.pin things) after)
    (good : Good host start world) :
    Moves host start first world (after.release world.pins) := by
  have same : SameState after { after with pins := world.pins } := rfl
  have released := moves.good.additions.sameState same rfl
  have swept := frame_sweep released.wired
  exact {
    good := released.good_sweep good.tidy good.pins
    pins := pins_sweep released.wired
    handleCount := Nat.le_trans moves.handleCount
      (Nat.le_of_eq swept.handleCount.symm)
    widgetCount := Nat.le_trans moves.widgetCount swept.fits.widgets
    topControllers := swept.topControllers.symm ▸ moves.topControllers
    earlier := fun id before =>
      (Alike.of_eq rfl : Alike world (world.pin things) id).trans
      ((moves.earlier id before).trans
        (.of_eq (handle_release moves.good.additions.wired world.pins id))) }

/-! ## Who imports whom -/

/-- Imports are later than what imports them, and a new document that has not
ended is imported by another one, or still open. -/
structure Filed (start world : World σ) (opened : List HandleId) : Prop where
  above : ∀ id, start.handles.size ≤ id.index → ∀ entry ∈ (world.handle id).imports,
    id.index < entry.2.index
  loose : ∀ id,
      start.handles.size ≤ id.index →
        world.Ended id ∨ id ∈ opened ∨
        ∃ parent,
          start.handles.size ≤ parent.index ∧
          ∃ entry ∈ (world.handle parent).imports, entry.2 = id

/-- If no document is open, all new ones have ended. -/
theorem Filed.ended (filed : Filed start world []) (index : Nat) :
    start.handles.size ≤ index → world.Ended ⟨index⟩ := by
  induction index using Nat.strongRecOn with
  | ind index hypothesis =>
    intro new
    rcases filed.loose ⟨index⟩ new with ended | none |
      ⟨parent, newParent, entry, member, same⟩
    · exact ended
    · cases none
    · have below := filed.above parent newParent entry member
      rw [same] at below
      rw [(hypothesis parent.index below newParent).imports] at member
      cases member

theorem Filed.later (filed : Filed start world opened)
    (imports : ∀ id, (after.handle id).imports = (world.handle id).imports)
    (ended : ∀ id, world.Ended id → after.Ended id ∨ id ∈ fewer)
    (less : ∀ id ∈ opened, id ∈ fewer ∨ after.Ended id) :
    Filed start after fewer where
  above id new entry member := filed.above id new entry (imports id ▸ member)
  loose id new := by
    rcases filed.loose id new with gone | isOpen |
      ⟨parent, newParent, entry, member, same⟩
    · exact (ended id gone).imp_right .inl
    · exact (less id isOpen).symm.imp_right .inl
    · exact .inr (.inr ⟨parent, newParent, entry,
        (imports parent).symm ▸ member, same⟩)

theorem Filed.alike (filed : Filed start world opened)
    (alike : ∀ id, Alike world after id) : Filed start after opened := by
  refine filed.later (fun id => (alike id).imports) ?_
    (fun _ member => .inl member)
  intro id ended
  exact .inl ((alike id).ended ended)

theorem Filed.release (filed : Filed start world opened) (wired : world.Wired)
    (pins : List Owned) : Filed start (world.release pins) opened :=
  filed.alike fun id => .of_eq (handle_release wired pins id)

/-! ## Taking documents down -/

/-- Documents before a certain one are as they were; others may have
lost imports, records and roots. -/
structure Sheds (host : WidgetId) (start : World σ) (first : Nat)
    (world after : World σ) :
    Prop extends Moves host start first world after where
  sameTops : after.topControllers = world.topControllers
  subset : ∀ id, (after.handle id).imports ⊆ (world.handle id).imports

theorem Sheds.refl (good : Good host start world) (first : Nat) :
    Sheds host start first world world :=
  ⟨.refl good first, rfl, fun _ => List.Subset.refl _⟩

theorem Sheds.trans (left : Sheds host start first world middle)
    (right : Sheds host start first middle after) :
    Sheds host start first world after := by
  refine ⟨left.toMoves.trans right.toMoves,
    right.sameTops.trans left.sameTops, ?_⟩
  intro id
  exact List.Subset.trans (right.subset id) (left.subset id)

theorem Sheds.mono {later : Nat} (sheds : Sheds host start later world after)
    (lower : first ≤ later) : Sheds host start first world after :=
  { sheds with toMoves := sheds.toMoves.mono lower }

theorem Sheds.nests {depth : Nat} (sheds : Sheds host start first world after)
    (nests : Nests world depth id) : Nests after depth id :=
  nests.subset sheds.subset

theorem Sheds.release {things : List Owned}
    (sheds : Sheds host start first (world.pin things) after)
    (good : Good host start world) :
    Sheds host start first world (after.release world.pins) := by
  have same : SameState after { after with pins := world.pins } := rfl
  have released := sheds.good.additions.sameState same rfl
  refine ⟨sheds.toMoves.release good,
    (frame_sweep released.wired).topControllers.trans sheds.sameTops,
    fun id => ?_⟩
  rw [handle_release sheds.good.additions.wired world.pins]
  exact sheds.subset id

theorem Quiet.sheds (quiet : Quiet host start world after) (first : Nat) :
    Sheds host start first world after where
  good := quiet.good
  pins := quiet.pins
  handleCount := Nat.le_of_eq (congrArg Store.size quiet.calm.handles.symm)
  widgetCount := Nat.le_of_eq quiet.calm.widgetCount.symm
  topControllers := quiet.calm.topControllers.symm ▸ List.prefix_refl _
  earlier id _ := .of_eq (quiet.calm.handle id)
  sameTops := quiet.calm.topControllers
  subset id := by
    rw [quiet.calm.handle]
    exact List.Subset.refl _

theorem Quiet.alike (quiet : Quiet host start world after) (id : HandleId) :
    Alike world after id :=
  .of_eq (quiet.calm.handle id)

theorem alike_updateHandle (world : World σ) {change : Handle → Handle}
    {other : HandleId} (before : other.index < id.index) :
    Alike world (world.updateHandle id change) other := by
  refine .of_eq ?_
  rw [handle_updateHandle, if_neg]
  rintro ⟨rfl, _⟩
  exact Nat.lt_irrefl _ before

/-- A new document has changed, and imports no more than before. -/
theorem Sheds.shed {change : Handle → Handle}
    (good : Good host start (world.updateHandle id change))
    (subset : ∀ old : Handle, (change old).imports ⊆ old.imports) :
    Sheds host start id.index world (world.updateHandle id change) where
  good := good
  pins := rfl
  handleCount := Nat.le_of_eq (Store.size_update ..).symm
  widgetCount := Nat.le_refl _
  topControllers := List.prefix_refl _
  earlier other before := alike_updateHandle world before
  sameTops := rfl
  subset other := by
    rw [handle_updateHandle]
    split
    · exact subset _
    · exact List.Subset.refl _

/-- A new document forgets its imports, which are open from then on. -/
theorem Good.forgetImports (good : Good host start world)
    (new : start.handles.size ≤ id.index)
    (filed : Filed start world (id :: opened)) :
    Sheds host start id.index world
      (world.updateHandle id ({ · with imports := [] })) ∧
    Filed start (world.updateHandle id ({ · with imports := [] }))
      ((world.handle id).imports.map Prod.snd ++ id :: opened) := by
  have sheds :
      Sheds host start id.index world
        (world.updateHandle id ({ · with imports := [] })) :=
    .shed (good.updateHandle new
      { imports := fun _ none => absurd none List.not_mem_nil } fun _ => rfl)
      fun _ => List.nil_subset _
  refine ⟨sheds, fun other newOther entry member => filed.above other newOther entry
    (sheds.subset other member), fun other newOther => ?_⟩
  rcases filed.loose other newOther with ended | isOpen |
    ⟨parent, newParent, entry, member, same⟩
  · refine .inl ⟨List.subset_nil.mp (ended.imports ▸ sheds.subset other), ?_,
      ?_⟩ <;> rw [handle_updateHandle]
    · split <;> exact ended.subscriptions
    · split <;> exact ended.root
  · exact .inr (.inl (List.mem_append_right _ isOpen))
  · by_cases own : id = parent
    · subst own
      exact .inr
        (.inl (List.mem_append_left _ (List.mem_map.mpr ⟨entry, member, same⟩)))
    · refine .inr (.inr ⟨parent, newParent, entry, ?_, same⟩)
      rwa [handle_updateHandle, if_neg fun both => own both.1]

/-- A new document undoes its records, and what nothing owns any more is swept
away. -/
theorem Good.cancelHandle (good : Good host start world)
    (new : start.handles.size ≤ id.index)
    (filed : Filed start world (id :: opened)) :
    Sheds host start id.index world (world.cancelHandle id).sweep ∧
    Filed start (world.cancelHandle id).sweep (id :: opened) ∧
    (world.cancelHandle id).sweep.handle id =
      { world.handle id with subscriptions := [] } := by
  have additions := good.additions.cancelHandle new
  have handles : ∀ other,
      (world.cancelHandle id).sweep.handle other =
        if id = other then { world.handle other with subscriptions := [] }
        else world.handle other := by
    intro other
    rw [Cuts.handle additions.wired.sweeps_sweep, handle_cancelHandle]
  have cuts :
      Cuts (fun binding => .binding binding ∈ world.kept (.handle id))
        (world.updateHandle id fun old => { old with subscriptions := [] })
        (world.cancelHandle id) :=
    Wired.cuts_cancels _ _ (good.additions.clearHandle new).wired
      fun record member => good.additions.wired.isKeepers member
  have pins : (world.cancelHandle id).pins = world.pins := by
    rw [cuts.rest]
    rfl
  have tops : (world.cancelHandle id).topControllers = world.topControllers := by
    rw [cuts.rest]
    rfl
  have count : (world.cancelHandle id).handles.size = world.handles.size :=
    (congrArg Store.size cuts.handles).trans (Store.size_update ..)
  have swept := frame_sweep additions.wired
  have imports : ∀ other, ((world.cancelHandle id).sweep.handle other).imports =
      (world.handle other).imports := by
    intro other
    rw [handles]
    split <;> rfl
  have earlier :
      ∀ other, id ≠ other → Alike world (world.cancelHandle id).sweep other :=
    fun other different => .of_eq ((handles other).trans (if_neg different))
  refine ⟨{
    good := additions.good_sweep good.tidy (pins ▸ good.pins)
    pins := (pins_sweep additions.wired).trans pins
    handleCount := Nat.le_of_eq (count.symm.trans swept.handleCount.symm)
    widgetCount := Nat.le_trans cuts.later.fits.widgets swept.fits.widgets
    topControllers := (swept.topControllers.trans tops).symm ▸ List.prefix_refl _
    earlier := fun other before => earlier other fun same =>
      Nat.lt_irrefl _ (same ▸ before)
    sameTops := swept.topControllers.trans tops
    subset := fun other => imports other ▸ List.Subset.refl _ },
    filed.later imports (fun other ended => ?_) fun other member => .inl member,
    (handles id).trans (if_pos rfl)⟩
  by_cases own : id = other
  · exact .inr (own ▸ List.mem_cons_self)
  · exact .inl ((earlier other own).ended ended)

theorem removeChild_updateHandle (world : World σ) (id : HandleId)
    (change : Handle → Handle) (parent child : WidgetId) :
    (world.updateHandle id change).removeChild parent child =
      (world.removeChild parent child).updateHandle id change := by
  have same :
      ((world.updateHandle id change).widget parent).children.contains child =
        (world.widget parent).children.contains child :=
    rfl
  unfold World.removeChild
  rw [same]
  split <;> rfl

/-- A new document whose root is below no old widget gives its root up. -/
theorem Good.clearRoot (good : Good host start world)
    (new : start.handles.size ≤ id.index)
    (gone :
      ∀ root,
        (world.handle id).root = some root →
        ∀ widget : WidgetId,
          widget.index < start.widgets.size →
          root ∉ (world.widget widget).children) :
    Sheds host start id.index world
      (world.updateHandle id ({ · with root := none })) :=
  .shed (good.updateHandle new
    { roots := fun _ none => by cases none
      stays := fun root found => .inr (gone root found) } fun _ => rfl)
    fun _ => List.Subset.refl _

/-- A document gives its root up, and the root leaves the tree. -/
def dropRoot (world : World σ) (id : HandleId) (root : WidgetId) : World σ :=
  let lost := world.updateHandle id ({ · with root := none })
  match lost.parent? root with
  | some parent => lost.removeChild parent root
  | none => lost

theorem dropRoot_handles (world : World σ) (id : HandleId) (root : WidgetId) :
    (world.dropRoot id root).handles =
      (world.updateHandle id ({ · with root := none })).handles := by
  unfold dropRoot
  simp only
  split
  · rw [(retrees_removeChild _ _ root).rest]
  · rfl

/-- A new document gives its root up, and the root leaves the tree. -/
theorem Good.dropRoot (good : Good host start world)
    (pinned : .widget host ∈ world.pins)
    (new : start.handles.size ≤ id.index) {root : WidgetId}
    (found : (world.handle id).root = some root) :
    Sheds host start id.index world (world.dropRoot id root) := by
  have newRoot := good.additions.widgets.roots id root new found
  unfold World.dropRoot
  simp only
  split
  case h_1 parent isParent =>
    have below : (world.widget root).parent = some parent := by
      obtain ⟨direct, isDirect, existing⟩ := Option.bind_eq_some_iff.mp isParent
      change (world.widget root).parent = some direct at isDirect
      rw [isDirect, existingWidget?_some existing]
    obtain ⟨adds, gone⟩ := good.additions.widgets.removeChild newRoot below
    have retrees := retrees_removeChild world parent root
    have removed := retrees.grows good adds
    have handles : (world.removeChild parent root).handles = world.handles := by
      rw [retrees.rest]
    have same : ∀ other, (world.removeChild parent root).handle other =
      world.handle other := by
      intro other
      simp only [World.handle, handles]
    have first : Sheds host start id.index world
      (world.removeChild parent root) := {
      good := removed.good
      pins := removed.pins
      handleCount := Nat.le_of_eq removed.frame.handleCount.symm
      widgetCount := Nat.le_of_eq retrees.widgetCount.symm
      topControllers := removed.frame.topControllers.symm ▸ List.prefix_refl _
      earlier := fun other _ => .of_eq (same other)
      sameTops := removed.frame.topControllers
      subset := fun other => same other ▸ List.Subset.refl _ }
    rw [removeChild_updateHandle]
    refine first.trans (removed.good.clearRoot new fun other foundOther => ?_)
    cases found.symm.trans (same id ▸ foundOther)
    exact gone
  case h_2 none =>
    refine good.clearRoot new fun other foundOther widget old member => ?_
    cases found.symm.trans foundOther
    -- a root below an old widget is below the host, which is kept
    obtain ⟨_, parent, _⟩ :=
      good.additions.widgets.attached widget old root member newRoot
    have hostExists : (world.updateHandle id
      ({ · with root := .none })).existingWidget? host = some host := by
      have kept : (world.updateHandle id
        ({ · with root := .none })).roots.contains (.widget host) = true := by
        simp only [World.roots, List.contains_iff_mem, List.mem_append]
        exact .inl (.inl (.inl (.inr pinned)))
      rw [World.existingWidget?, World.existing, World.existsWithin, kept]
      rfl
    have lost : ((world.updateHandle id ({ · with root := .none })).widget
      root).parent = some host := parent
    rw [World.parent?, lost, Option.bind_some, hostExists] at none
    cases none

/-- Giving up a root that a document has drops it, and does nothing when there
is none. -/
theorem giveUpRoot_apply (id : HandleId) (world : World σ) :
    (giveUpRoot id world).2 = match (world.handle id).root with
      | none => world
      | some root =>
        ((world.pin [.widget root]).dropRoot id root).release world.pins := by
  rw [giveUpRoot, Action.bind_apply, Action.get_apply]
  cases (world.handle id).root with
  | none => rfl
  | some root =>
    simp only [keeping_apply, dropRoot, Action.bind_apply, Action.get_apply,
      Action.modify_apply]
    cases ((world.pin [.widget root]).updateHandle id
      ({ · with root := none })).parent? root <;> rfl

/-- A new document that neither imports nor keeps anything has ended when it has
given its root up. -/
theorem Good.giveUpRoot (good : Good host start world)
    (pinned : .widget host ∈ world.pins) (new : start.handles.size ≤ id.index)
    (imports : (world.handle id).imports = [])
    (subscriptions : (world.handle id).subscriptions = [])
    (filed : Filed start world (id :: opened)) :
    Sheds host start id.index world
      ((World.giveUpRoot id : Action σ Unit) world).2 ∧
    Filed start ((World.giveUpRoot id : Action σ Unit) world).2 opened := by
  rw [giveUpRoot_apply]
  split
  case h_1 none =>
    refine ⟨.refl good _,
      filed.later (fun _ => rfl) (fun _ ended => .inl ended)
      fun other member => ?_⟩
    rcases List.mem_cons.mp member with rfl | still
    · exact .inr ⟨imports, subscriptions, none⟩
    · exact .inl still
  case h_2 root found =>
    have plain : ∀ thing ∈ [Owned.widget root], ¬ thing.Repeats := by
      intro thing member
      cases List.mem_singleton.mp member
      exact not_false
    have drops :=
      (good.pin plain).dropRoot (List.mem_append_right _ pinned) new found
    have handles : ∀ other,
        ((world.pin [.widget root]).dropRoot id root).handle other =
          (world.updateHandle id ({ · with root := none })).handle other := by
      intro other
      simp only [World.handle, dropRoot_handles]
      rfl
    have dropped :
        Filed start ((world.pin [.widget root]).dropRoot id root) opened := by
      have lost : ∀ other,
          id ≠ other →
          Alike world ((world.pin [.widget root]).dropRoot id root) other :=
        fun other apart =>
          .of_eq
            (by
              rw [handles, handle_updateHandle,
                if_neg fun both => apart both.1])
      have finished : ((world.pin [.widget root]).dropRoot id root).Ended id := by
        constructor <;> rw [handles, handle_updateHandle] <;> split
        · exact imports
        · exact imports
        · exact subscriptions
        · exact subscriptions
        · rfl
        case isFalse outside =>
          rw [handle_of_not_lt fun inside => outside ⟨rfl, inside⟩]
          rfl
      refine filed.later (fun other => ?_) (fun other ended => ?_)
        fun other member => ?_
      · by_cases own : id = other
        · rw [← own, finished.imports, imports]
        · exact (lost other own).imports
      · by_cases own : id = other
        · exact .inl (own ▸ finished)
        · exact .inl ((lost other own).ended ended)
      · rcases List.mem_cons.mp member with rfl | still
        · exact .inr finished
        · exact .inl still
    exact ⟨drops.release good,
      dropped.release drops.good.additions.wired world.pins⟩

/-! ## Taking down what is imported -/

/-- A way to dispose of documents that takes each of them down, as long as
their imports do not nest too deeply. -/
def Disposes (host : WidgetId) (start : World σ) (deliver : Deliver σ)
    (depth : Nat) : Prop :=
  ∀ world child opened, Good host start world → .widget host ∈ world.pins →
    start.handles.size ≤ child.index → Filed start world (child :: opened) →
      (∃ lower < depth, Nests world lower child) →
        Sheds host start child.index world (deliver (.dispose child) world).2 ∧
          Filed start (deliver (.dispose child) world).2 opened

/-- Documents are disposed of one by one. -/
theorem Disposes.forM {depth : Nat}
    (disposes : Disposes host start deliver depth) (children : List HandleId)
    (world : World σ) (good : Good host start world)
    (pinned : .widget host ∈ world.pins)
    (new : ∀ child ∈ children, start.handles.size ≤ child.index)
    (above : ∀ child ∈ children, first ≤ child.index)
    (filed : Filed start world (children ++ opened))
    (nests : ∀ child ∈ children, ∃ lower < depth, Nests world lower child) :
    Sheds host start first world
      ((children.forM fun child => deliver (.dispose child) :
        Action σ Unit) world).2 ∧
    Filed start ((children.forM fun child => deliver (.dispose child) :
      Action σ Unit) world).2 opened := by
  induction children generalizing world with
  | nil => exact ⟨.refl good _, filed⟩
  | cons child rest hypothesis =>
    obtain ⟨sheds, later⟩ := disposes world child (rest ++ opened) good pinned
      (new child List.mem_cons_self) filed (nests child List.mem_cons_self)
    obtain ⟨others, latest⟩ := hypothesis _ sheds.good (sheds.pins ▸ pinned)
      (fun other member => new other (List.mem_cons_of_mem _ member))
      (fun other member => above other (List.mem_cons_of_mem _ member)) later
      fun other member => by
        obtain ⟨lower, less, nests⟩ := nests other (List.mem_cons_of_mem _ member)
        exact ⟨lower, less, sheds.nests nests⟩
    exact ⟨(sheds.mono (above child List.mem_cons_self)).trans others, latest⟩

/-- A new document is taken down, and its imports are disposed of. -/
theorem Good.teardown {depth : Nat} (good : Good host start world)
    (pinned : .widget host ∈ world.pins) (new : start.handles.size ≤ id.index)
    (filed : Filed start world (id :: opened))
    (disposes : Disposes host start deliver depth)
    (nests : Nests world depth id) :
    Sheds host start id.index world (id.teardown deliver world).2 ∧
    Filed start (id.teardown deliver world).2 opened := by
  have member : ∀ child ∈ (world.handle id).imports.map Prod.snd,
      ∃ entry ∈ (world.handle id).imports, entry.2 = child := fun child member =>
        List.mem_map.mp member
  have above : ∀ child ∈ (world.handle id).imports.map Prod.snd,
      id.index + 1 ≤ child.index := by
    rintro _ listed
    obtain ⟨entry, imported, rfl⟩ := member _ listed
    exact filed.above id new entry imported
  rw [teardown_apply]
  obtain ⟨forgets, opens⟩ := good.forgetImports new filed
  have forgotten := imports_forgotten world id
  generalize world.updateHandle id ({ · with imports := [] }) = lost
    at forgets opens forgotten ⊢
  have plain :
      ∀ thing ∈ ((world.handle id).imports.map Prod.snd).map Owned.handle,
        ¬ thing.Repeats := by
    rintro _ listed
    obtain ⟨_, _, rfl⟩ := List.mem_map.mp listed
    exact not_false
  obtain ⟨goes, rest⟩ := disposes.forM ((world.handle id).imports.map Prod.snd) _
    (forgets.good.pin plain) (List.mem_append_right _ (forgets.pins ▸ pinned))
    (fun child listed => Nat.le_trans new (Nat.le_of_lt (above child listed))) above
    (opens.alike fun _ => .of_eq rfl) fun child listed => by
      obtain ⟨entry, imported, rfl⟩ := member child listed
      obtain ⟨lower, less, nests⟩ := nests.imports entry imported
      exact ⟨lower, less, (forgets.nests nests).subset fun _ => List.Subset.refl _⟩
  have disposed := goes.release forgets.good
  have stillOpen := rest.release goes.good.additions.wired lost.pins
  rw [keeping_apply]
  generalize ((((world.handle id).imports.map Prod.snd).forM fun child =>
    deliver (.dispose child) : Action σ Unit)
    (lost.pin (((world.handle id).imports.map Prod.snd).map .handle))).2.release
    lost.pins = later at disposed stillOpen ⊢
  obtain ⟨cancels, records, cleared⟩ := disposed.good.cancelHandle new stillOpen
  have empty := (disposed.earlier id (Nat.lt_succ_self _)).imports.trans forgotten
  obtain ⟨gives, closed⟩ := cancels.good.giveUpRoot
    (cancels.pins ▸ disposed.pins ▸ forgets.pins ▸ pinned) new
      (by rw [cleared]; exact empty)
    (by rw [cleared]) records
  exact ⟨((forgets.trans (disposed.mono (Nat.le_succ _))).trans cancels).trans
    gives, closed⟩

/-- A new document is disposed of: its controller learns of it, and it is taken
down. -/
theorem Serene.dispose {depth : Nat} (serene : Serene host start deliver)
    (good : Good host start world) (pinned : .widget host ∈ world.pins)
    (new : start.handles.size ≤ id.index) (filed : Filed start world (id :: opened))
    (disposes : Disposes host start deliver depth) (nests : Nests world depth id) :
    Sheds host start id.index world (id.dispose deliver world).2 ∧
      Filed start (id.dispose deliver world).2 opened := by
  have plain : ∀ thing ∈ [Owned.handle id], ¬ thing.Repeats := by
    intro thing member
    cases List.mem_singleton.mp member
    exact not_false
  have noted := (good.pin plain).noteLife (.disposed id)
  have told :=
    noted.trans (serene.disposed _ (world.handle id).controller noted.good)
  rw [dispose_apply]
  generalize (deliver (.disposed (world.handle id).controller)
    ((world.pin [.handle id]).noteLife (.disposed id))).2 = later at told ⊢
  have tells := told.sheds id.index
  have alike : ∀ other, Alike world later other := fun other =>
    (Alike.of_eq rfl : Alike world (world.pin [.handle id]) other).trans
      (told.alike other)
  obtain ⟨goes, closed⟩ :=
    tells.good.teardown (tells.pins ▸ List.mem_append_right _ pinned) new
      (filed.alike alike) disposes
      (nests.subset fun other => (alike other).imports ▸ List.Subset.refl _)
  exact ⟨(tells.trans goes).release good,
    closed.release goes.good.additions.wired world.pins⟩

/-- However deeply imports nest, disposing of documents takes them down, if
callbacks may nest as deeply. -/
theorem disposes_deliver {program : Host σ} (inert : program.Inert) (depth : Nat) :
    Disposes host start (program.deliver depth) depth := by
  induction depth with
  | zero =>
    rintro world child opened good pinned new filed ⟨lower, less, nests⟩
    exact absurd less (Nat.not_lt_zero lower)
  | succ depth hypothesis =>
    rintro world child opened good pinned new filed ⟨lower, less, nests⟩
    exact (serene_deliver inert depth).dispose good pinned new filed hypothesis
      (nests.more (Nat.le_of_lt_succ less))

end LiveMarkup.World
