import LiveMarkup.World

/-!
# Running actions

What the operations of the two monads do to a world, and how a run that succeeds
is taken apart.
-/

namespace LiveMarkup

variable {σ α β : Type}

namespace Action

theorem bind_apply (action : Action σ α) (next : α → Action σ β) (world : World σ) :
    (action >>= next) world = next (action world).1 (action world).2 :=
  rfl

theorem pure_apply (result : α) (world : World σ) :
    (pure result : Action σ α) world = (result, world) :=
  rfl

theorem modify_apply (change : World σ → World σ) (world : World σ) :
    (modify change : Action σ Unit) world = ((), change world) :=
  rfl

theorem get_apply (world : World σ) :
    (get : Action σ (World σ)) world = (world, world) :=
  rfl

theorem set_apply (world other : World σ) :
    (set other : Action σ PUnit) world = ((), other) :=
  rfl

end Action

namespace Attempt

theorem bind_run (attempt : Attempt σ α) (next : α → Attempt σ β)
    (world : World σ) :
    (attempt >>= next).run world =
      match attempt.run world with
      | (.ok result, after) => (next result).run after
      | (.error error, after) => (.error error, after) := by
  rw [ExceptT.run_bind, Action.bind_apply]
  rcases attempt.run world with ⟨outcome, after⟩
  cases outcome <;> rfl

theorem pure_run (result : α) (world : World σ) :
    (pure result : Attempt σ α).run world = (.ok result, world) :=
  rfl

theorem throw_run (error : UiError) (world : World σ) :
    (throw error : Attempt σ α).run world = (.error error, world) :=
  rfl

theorem lift_run (action : Action σ α) (world : World σ) :
    (liftM action : Attempt σ α).run world =
      (.ok (action world).1, (action world).2) :=
  rfl

theorem except_run (outcome : Except UiError α) (world : World σ) :
    (liftM outcome : Attempt σ α).run world = (outcome, world) := by
  cases outcome <;> rfl

theorem getThe_run (world : World σ) :
    (getThe (World σ) : Attempt σ (World σ)).run world = (.ok world, world) :=
  rfl

theorem modifyThe_run (change : World σ → World σ) (world : World σ) :
    (modifyThe (World σ) change : Attempt σ PUnit).run world =
      (.ok (), change world) :=
  rfl

theorem set_run (world other : World σ) :
    (set other : Attempt σ PUnit).run world = (.ok (), other) :=
  rfl

theorem tryCatch_run (attempt : Attempt σ α) (handler : UiError → Attempt σ α)
    (world : World σ) :
    (tryCatch attempt handler).run world =
      match attempt.run world with
      | (.ok result, after) => (.ok result, after)
      | (.error error, after) => (handler error).run after := by
  rw [ExceptT.run_tryCatch, Action.bind_apply]
  rcases attempt.run world with ⟨outcome, after⟩
  cases outcome <;> rfl

/-- A chain of attempts succeeds if all of them do. -/
theorem bind_ok {attempt : Attempt σ α} {next : α → Attempt σ β}
    {world after : World σ} {result : β}
    (success : (attempt >>= next).run world = (.ok result, after)) :
    ∃ middle between,
      attempt.run world = (.ok middle, between) ∧
      (next middle).run between = (.ok result, after) := by
  rw [bind_run] at success
  split at success
  case h_1 middle between first =>
    exact ⟨middle, between, first, success⟩
  case h_2 => cases success

end Attempt

end LiveMarkup
