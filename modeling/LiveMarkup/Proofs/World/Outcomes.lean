import LiveMarkup.World.Ownership
import LiveMarkup.Proofs.World.Actions

/-!
# What is true after an attempt

What is known of the world an attempt leads to depends on whether it succeeds.
Both outcomes are stated at once, and there is a rule for each way to put
attempts together.
-/

namespace LiveMarkup

namespace World

variable {σ : Type}

/-- The end of an operation: it keeps nothing any more, and what nothing owns is
swept away. -/
def release (world : World σ) (pins : List Owned) : World σ :=
  World.sweep { world with pins }

theorem keeping_apply {α : Type} (things : List Owned) (action : Action σ α)
    (world : World σ) :
    keeping things action world =
      ((action (world.pin things)).1,
         (action (world.pin things)).2.release world.pins) :=
  rfl

end World

/-- What is true of the world after an attempt, if it succeeds and if it fails. -/
structure Attempt.Ends {σ α : Type} (attempt : Attempt σ α) (world : World σ)
    (succeeds : α → World σ → Prop) (fails : World σ → Prop) : Prop where
  success : ∀ result after,
      attempt.run world = (.ok result, after) → succeeds result after
  failure : ∀ error after, attempt.run world = (.error error, after) → fails after

namespace Attempt

variable {σ α β : Type} {world : World σ} {fails failsLater : World σ → Prop}
  {succeeds succeedsLater : α → World σ → Prop}

/-- An attempt that ends well goes on to the next one, and one that fails ends
there. -/
theorem Ends.bind {attempt : Attempt σ α} {next : α → Attempt σ β}
    {finishes : β → World σ → Prop}
    (first : attempt.Ends world succeeds fails)
    (second :
      ∀ result middle,
        succeeds result middle → (next result).Ends middle finishes failsLater)
    (failed : ∀ middle, fails middle → failsLater middle) :
    (attempt >>= next).Ends world finishes failsLater := by
  constructor <;> intro outcome after ran <;> rw [bind_run] at ran
  · split at ran
    case h_1 result middle here =>
      exact (second result middle (first.success result middle here)).success
        outcome after ran
    case h_2 => cases ran
  · split at ran
    case h_1 result middle here =>
      exact (second result middle (first.success result middle here)).failure
        outcome after ran
    case h_2 error middle here =>
      cases ran
      exact failed _ (first.failure _ _ here)

theorem Ends.mono {attempt : Attempt σ α} (ends : attempt.Ends world succeeds fails)
    (success : ∀ result after, succeeds result after → succeedsLater result after)
    (failure : ∀ after, fails after → failsLater after) :
    attempt.Ends world succeedsLater failsLater := by
  constructor
  · intro result after ran
    exact success result after (ends.success result after ran)
  · intro error after ran
    exact failure after (ends.failure error after ran)

theorem Ends.of_run {attempt : Attempt σ α} {every : World σ → Prop}
    (all : every (attempt.run world).2)
    (success :
      ∀ result,
        (attempt.run world).1 = .ok result →
        succeeds result (attempt.run world).2) :
    attempt.Ends world (fun result after => every after ∧ succeeds result after)
      every := by
  constructor <;> intro outcome after ran <;> rw [ran] at all
  · rw [ran] at success
    exact ⟨all, success outcome rfl⟩
  · exact all

theorem Ends.pure {result : α} (done : succeeds result world) :
    (Pure.pure result : Attempt σ α).Ends world succeeds fails := by
  constructor <;> intro outcome after ran <;> cases ran
  exact done

theorem Ends.throw {error : UiError} (failed : fails world) :
    (MonadExcept.throw error : Attempt σ α).Ends world succeeds fails := by
  constructor <;> intro outcome after ran <;> cases ran
  exact failed

theorem Ends.get {next : World σ → Attempt σ α}
    (rest : (next world).Ends world succeeds fails) :
    (getThe (World σ) >>= next).Ends world succeeds fails := by
  constructor <;> intro outcome after ran <;> rw [bind_run, getThe_run] at ran
  · exact rest.success outcome after ran
  · exact rest.failure outcome after ran

theorem Ends.lift {action : Action σ α}
    (done : succeeds (action world).1 (action world).2) :
    (liftM action : Attempt σ α).Ends world succeeds fails := by
  constructor <;> intro outcome after ran <;> rw [lift_run] at ran <;> cases ran
  exact done

theorem Ends.perform {action : Action σ β} {next : β → Attempt σ α}
    (rest : (next (action world).1).Ends (action world).2 succeeds fails) :
    ((liftM action : Attempt σ β) >>= next).Ends world succeeds fails := by
  constructor <;> intro outcome after ran <;> rw [bind_run, lift_run] at ran
  · exact rest.success outcome after ran
  · exact rest.failure outcome after ran

theorem Ends.change {change : World σ → World σ} {succeeds : PUnit → World σ → Prop}
    (done : succeeds ⟨⟩ (change world)) :
    (modifyThe (World σ) change : Attempt σ PUnit).Ends world succeeds fails := by
  constructor <;> intro outcome after ran <;> cases ran
  exact done

theorem Ends.modify {change : World σ → World σ} {next : PUnit → Attempt σ α}
    (rest : (next ⟨⟩).Ends (change world) succeeds fails) :
    (modifyThe (World σ) change >>= next).Ends world succeeds fails := by
  constructor <;> intro outcome after ran <;> rw [bind_run, modifyThe_run] at ran
  · exact rest.success outcome after ran
  · exact rest.failure outcome after ran

theorem Ends.attempting {things : List Owned} {attempt : Attempt σ α}
    (ends : attempt.Ends (world.pin things)
      (fun result after => succeeds result (after.release world.pins))
      fun after => fails (after.release world.pins)) :
    (LiveMarkup.attempting things attempt).Ends world succeeds fails := by
  have run : (LiveMarkup.attempting things attempt).run world =
        ((attempt.run (world.pin things)).1,
           (attempt.run (world.pin things)).2.release world.pins) :=
    rfl
  constructor <;> intro outcome after ran <;> rw [run, Prod.mk.injEq] at ran <;>
      obtain ⟨gave, rfl⟩ :=
    ran
  · exact ends.success outcome _ (Prod.ext gave rfl)
  · exact ends.failure outcome _ (Prod.ext gave rfl)

/-- A failure that is caught ends as its handler ends. -/
theorem Ends.tryCatch {attempt : Attempt σ α}
    {handler : UiError → Attempt σ α}
    (ends : attempt.Ends world succeeds fails)
    (handles :
      ∀ error after,
        fails after → (handler error).Ends after succeeds failsLater) :
    (MonadExcept.tryCatch attempt handler).Ends world succeeds failsLater := by
  constructor <;> intro outcome after ran <;> rw [tryCatch_run] at ran
  · split at ran
    case h_1 result middle here =>
      cases ran
      exact ends.success _ _ here
    case h_2 error middle here =>
      exact (handles error middle (ends.failure error middle here)).success
        outcome after ran
  · split at ran
    case h_1 => cases ran
    case h_2 error middle here =>
      exact (handles error middle (ends.failure error middle here)).failure
        outcome after ran

end Attempt

end LiveMarkup
