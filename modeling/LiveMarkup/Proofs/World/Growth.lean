import LiveMarkup.Proofs.World.Grafting
import LiveMarkup.Proofs.World.TameHosts

/-!
# Live properties are never taken away

Whatever happens, the store of live properties keeps all that it holds:
operations add to it and change its entries.  This holds in every world, also
where values name what does not exist.
-/

namespace LiveMarkup

variable {σ α : Type}

namespace World

/-- The number of live properties there have ever been. -/
def liveCount (world : World σ) : Nat := world.bindings.size

/-- No live property is taken away. -/
abbrev KeepsLive (world after : World σ) : Prop := world.liveCount ≤ after.liveCount

instance : AllowsLoading (KeepsLive : World σ → World σ → Prop) where
  refl _ := Nat.le_refl _
  trans := Nat.le_trans
  minor minor := Nat.le_of_eq minor.bindingCount.symm
  pins _ _ := Nat.le_refl _
  binding _ _ _ :=
    Nat.le_trans (Nat.le_succ _) (Nat.le_of_eq (Store.size_add ..).symm)
  handle _ _ := Nat.le_refl _
  updateHandle _ _ _ := Nat.le_refl _
  noteLife _ _ := Nat.le_refl _
  exhausted _ := Nat.le_refl _

variable (world : World σ)

theorem liveCount_sweep : world.sweep.liveCount = world.liveCount :=
  world.slight_sweep.bindingCount

theorem liveCount_keepSubscription (keeper : SubscriptionKeeper)
    (record : Subscription) :
    (world.keepSubscription keeper record).liveCount = world.liveCount :=
  (world.slight_keepSubscription keeper record).bindingCount

end World

/-- An action that keeps all live properties. -/
abbrev Action.Keeps (action : Action σ α) : Prop :=
  Action.Within World.KeepsLive action

abbrev Attempt.Keeps (attempt : Attempt σ α) : Prop :=
  Attempt.Within World.KeepsLive attempt

theorem Attempt.Within.le {attempt : Attempt σ α} (keeps : attempt.Keeps)
    {world after : World σ} {result : Except UiError α}
    (ran : attempt.run world = (result, after)) :
    world.liveCount ≤ after.liveCount :=
  keeps.of_run ran

section Operations

variable {deliver : Deliver σ}

theorem keeps_refresh (keeps : ∀ callback, Action.Keeps (deliver callback))
    (id : BindingId) : Action.Keeps (id.refresh deliver) := by
  refine within_refresh ?_ (within_notify fun callback _ => keeps callback) id
  intro _ _ _
  exact Nat.le_of_eq (Store.size_update ..).symm

theorem keeps_sets (keeps : ∀ callback, Action.Keeps (deliver callback))
    {world after : World σ} (sets : world.Sets deliver after) :
    world.liveCount ≤ after.liveCount := by
  induction sets with
  | done => exact Nat.le_refl _
  | host _ _ hypothesis => exact hypothesis
  | newBag _ _ _ hypothesis => exact hypothesis
  | newList _ _ hypothesis => exact hypothesis
  | set bag name _ _ hypothesis =>
    exact Nat.le_trans hypothesis
      (within_set (within_notify fun callback _ => keeps callback) bag name _ _)

theorem keeps_respond (keeps : ∀ callback, Action.Keeps (deliver callback))
    {host : Host σ} (tame : host.Tame) (call : HostCall) :
    Action.Keeps (host.respond deliver call) := by
  intro world
  by_cases change : call.IsChange
  · obtain ⟨state, same⟩ := tame.listens deliver call world change
    rw [same]
    exact Nat.le_refl _
  · exact keeps_sets keeps (tame.handles deliver call world change)

/-- Delivering a callback takes no live property away. -/
theorem keeps_deliver {host : Host σ} (tame : host.Tame) (depth : Nat)
    (callback : Callback) : Action.Keeps (host.deliver depth callback) :=
  within_deliver (fun _ keeps => keeps_refresh keeps)
    (fun _ keeps => keeps_respond keeps tame) depth callback

end Operations

end LiveMarkup
