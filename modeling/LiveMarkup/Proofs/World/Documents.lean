import LiveMarkup.Rendering.Lifecycle
import LiveMarkup.Proofs.World.Access
import LiveMarkup.Proofs.World.Outcomes

/-!
# Documents that import each other

Documents have handles, and a handle lists those of the documents that
are imported.  As long as imports do not go in a circle, they nest only so deeply.
-/

namespace LiveMarkup.World

variable {σ : Type} {world after : World σ} {id : HandleId} {depth : Nat}

theorem handle_create (world : World σ) (name : String)
    (controller : Controller) (id : HandleId) :
    ((HandleId.create name controller : Action σ HandleId) world).2.handle id =
      if id.index = world.handles.size then ⟨name, controller, [], [], none, []⟩
      else world.handle id := by
  simp only [HandleId.create, handle, Store.get?_add]
  split <;> rfl

theorem handle_of_not_lt {id : HandleId}
    (absent : ¬ id.index < world.handles.size) : world.handle id = default := by
  simp only [handle, Store.get?_of_not_lt absent]
  rfl

/-- Load an import of a document below the host or the root, and note it. -/
def importEntry (load : WidgetId → String → Attempt σ HandleId)
    (handle : HandleId) (host root : WidgetId) (directory : String)
    (entry : Import) : Attempt σ PUnit :=
  do
  let child ← load (if entry.topLevel then host else root) (entry.path directory)
  let name := ((← getThe (World σ)).handle child).name
  if entry.topLevel then
    modifyThe (World σ) fun world =>
      { world with topControllers := world.topControllers ++ [(name, child)] }
  modifyThe (World σ) (·.updateHandle handle fun old =>
    { old with imports := old.imports ++ [(name, child)] })

/-! ## Nesting -/

/-- At most so many documents import each other in a chain that begins with a
document. -/
def Nests (world : World σ) : Nat → HandleId → Prop
  | 0, id => (world.handle id).imports = []
  | depth + 1, id => ∀ entry ∈ (world.handle id).imports, Nests world depth entry.2

/-- Among documents that import each other only, none has come to import more. -/
theorem Nests.later {depth : Nat} (nests : Nests world depth id)
    (among : HandleId → Prop)
    (closed :
      ∀ id, among id → ∀ entry ∈ (world.handle id).imports, among entry.2)
    (subset :
      ∀ id, among id → (after.handle id).imports ⊆ (world.handle id).imports)
    (inside : among id) : Nests after depth id := by
  induction depth generalizing id with
  | zero => exact List.subset_nil.mp (nests ▸ subset id inside)
  | succ depth hypothesis =>
    intro entry member
    have old := subset id inside member
    exact hypothesis (nests entry old) (closed id inside entry old)

theorem Nests.subset {depth : Nat} (nests : Nests world depth id)
    (subset : ∀ id, (after.handle id).imports ⊆ (world.handle id).imports) :
    Nests after depth id :=
  nests.later (fun _ => True) (fun _ _ _ _ => trivial)
    (fun id _ => subset id) trivial

/-- Imports that nest within a depth nest within any larger one. -/
theorem Nests.more {depth higher : Nat} (nests : Nests world depth id)
    (atMost : depth ≤ higher) : Nests world higher id := by
  induction depth generalizing id higher with
  | zero =>
    cases higher with
    | zero => exact nests
    | succ higher =>
      intro entry member
      rw [Nests] at nests
      rw [nests] at member
      cases member
  | succ depth hypothesis =>
    obtain ⟨lower, rfl⟩ := Nat.exists_eq_add_of_lt atMost
    exact fun entry member => hypothesis (nests entry member) (by omega)

theorem Nests.imports {depth : Nat} (nests : Nests world depth id) :
    ∀ entry ∈ (world.handle id).imports, ∃ lower < depth,
      Nests world lower entry.2 := by
  intro entry member
  cases depth with
  | zero =>
    rw [Nests] at nests
    rw [nests] at member
    cases member
  | succ depth => exact ⟨depth, Nat.lt_succ_self _, nests entry member⟩

theorem Nests.of_imports
    (nests :
      ∀ entry ∈ (world.handle id).imports, ∃ lower < depth,
        Nests world lower entry.2) : Nests world depth id := by
  cases depth with
  | zero =>
    refine List.eq_nil_iff_forall_not_mem.mpr fun entry member => ?_
    obtain ⟨lower, less, _⟩ := nests entry member
    exact Nat.not_lt_zero lower less
  | succ depth =>
    intro entry member
    obtain ⟨lower, less, nests⟩ := nests entry member
    exact nests.more (Nat.le_of_lt_succ less)

/-! ## Taking documents down in steps -/

/-- The last step of taking a document down: its root leaves the tree. -/
def giveUpRoot (id : HandleId) : Action σ Unit := do
  match ((← get).handle id).root with
  | none => pure ()
  | some root => keeping [.widget root] do
    modify (·.updateHandle id ({ · with root := none }))
    match (← get).parent? root with
    | some parent => modify (·.removeChild parent root)
    | none => pure ()

/-- Taking a document down gives up its root and then goes on with its imports.
-/
theorem teardown_apply (deliver : Deliver σ) (id : HandleId) (world : World σ) :
    (id.teardown deliver world).2 =
      ((World.giveUpRoot id : Action σ Unit)
        ((keeping ((world.handle id).imports.map Prod.snd |>.map .handle)
          (((world.handle id).imports.map Prod.snd).forM fun child =>
            deliver (.dispose child))
          (world.updateHandle id ({ · with imports := [] }))).2.cancelHandle
          id).sweep).2 := by
  simp only [HandleId.teardown, Action.bind_apply, Action.get_apply,
    Action.modify_apply]
  generalize World.sweep _ = swept
  unfold giveUpRoot
  rewrite [Action.bind_apply, Action.get_apply]
  cases (swept.handle id).root <;> rfl

theorem imports_forgotten (world : World σ) (id : HandleId) :
    ((world.updateHandle id ({ · with imports := [] })).handle id).imports =
      [] := by
  rw [handle_updateHandle]
  split
  case isTrue => rfl
  case isFalse outside =>
    rw [handle_of_not_lt fun inside => outside ⟨rfl, inside⟩]
    rfl

theorem dispose_apply (deliver : Deliver σ) (id : HandleId) (world : World σ) :
    (id.dispose deliver world).2 =
      (id.teardown deliver
        (deliver (.disposed (world.handle id).controller)
          ((world.pin [.handle id]).noteLife (.disposed id))).2).2.release
        world.pins := by
  simp only [HandleId.dispose, keeping_apply, Action.bind_apply,
    Action.get_apply, Action.modify_apply]
  rfl

end LiveMarkup.World
