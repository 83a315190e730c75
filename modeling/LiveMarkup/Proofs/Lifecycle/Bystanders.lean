import LiveMarkup.Proofs.World.Grafting
import LiveMarkup.Proofs.World.TameHosts

/-!
# Hosts that leave documents alone

While a document is built or taken down, callbacks run.  If what the host does
in them neither loads nor takes down a document, then no controller is told
anything meanwhile, and all documents go on importing what they do.
-/

namespace LiveMarkup

variable {σ : Type}

/-- No controller is told anything, and documents import what they did before. -/
structure World.Steady (world after : World σ) : Prop where
  lives : after.lives = world.lives
  imports : ∀ id, (after.handle id).imports = (world.handle id).imports
  handleCount : world.handles.size ≤ after.handles.size

instance : AllowsBuilding (World.Steady : World σ → World σ → Prop) where
  refl _ := ⟨rfl, fun _ => rfl, Nat.le_refl _⟩
  trans left right :=
    ⟨right.lives.trans left.lives,
      fun id => (right.imports id).trans (left.imports id),
      Nat.le_trans left.handleCount right.handleCount⟩
  minor minor := ⟨minor.lives, minor.imports, Nat.le_of_eq minor.handleCount.symm⟩
  pins _ _ := ⟨rfl, fun _ => rfl, Nat.le_refl _⟩
  binding _ _ _ := ⟨rfl, fun _ => rfl, Nat.le_refl _⟩

/-- What the host does when it is called leaves documents alone, as long as the
callbacks do that it causes by it. -/
def Host.Bystander (host : Host σ) : Prop :=
  ∀ deliver : Deliver σ, Deliver.Within World.Steady deliver →
    ∀ call, Action.Within World.Steady (host.respond deliver call)

/-- Callbacks leave documents alone, apart from those that take documents down. -/
theorem Host.Bystander.delivers {host : Host σ} (bystander : host.Bystander)
    (depth : Nat) : Deliver.Within World.Steady (host.deliver depth) := by
  induction depth with
  | zero => exact fun _ _ => .modify fun _ => ⟨rfl, fun _ => rfl, Nat.le_refl _⟩
  | succ depth hypothesis =>
    exact fun _ stays => within_run hypothesis
      (within_refresh (fun _ _ _ => ⟨rfl, fun _ => rfl, Nat.le_refl _⟩)
        (within_notify hypothesis)) (bystander _ hypothesis) stays

/-- Setting properties and making bags and lists leaves documents alone. -/
theorem World.Sets.steady {deliver : Deliver σ}
    (delivers : Deliver.Within World.Steady deliver) {world after : World σ}
    (sets : world.Sets deliver after) : world.Steady after := by
  induction sets with
  | done => exact Chains.refl _
  | host _ _ hypothesis =>
    exact Chains.trans hypothesis
      (AllowsMinor.minor (.of_eq rfl rfl rfl rfl rfl))
  | newBag _ _ _ hypothesis =>
    exact Chains.trans hypothesis (AllowsMinor.minor (.of_eq rfl rfl rfl rfl rfl))
  | newList _ _ hypothesis =>
    exact Chains.trans hypothesis (AllowsMinor.minor (.of_eq rfl rfl rfl rfl rfl))
  | set bag name _ _ hypothesis =>
    exact Chains.trans hypothesis (within_set (within_notify delivers) bag name _ _)

/-- A host that only sets properties leaves documents alone. -/
theorem Host.Tame.bystander {host : Host σ} (tame : host.Tame) :
    host.Bystander := by
  intro deliver delivers call world
  by_cases change : call.IsChange
  · obtain ⟨state, same⟩ := tame.listens deliver call world change
    rw [same]
    exact AllowsMinor.minor (.of_eq rfl rfl rfl rfl rfl)
  · exact (tame.handles deliver call world change).steady delivers

end LiveMarkup
