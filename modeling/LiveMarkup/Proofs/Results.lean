/-!
# Results of runs

A run on a fixed input is computed once, as a fact that can be decided: whether
it succeeds, or what is to be seen of its result.  These lemmas turn such facts
into equations, without computing the run again.
-/

namespace LiveMarkup

variable {ε α β : Type}

/-- A run that succeeds has a result. -/
theorem exists_eq_ok {result : Except ε α} (isOk : result.isOk = true) :
    ∃ value, result = .ok value := by
  cases result with
  | error error => cases isOk
  | ok value => exact ⟨value, rfl⟩

/-- One that does not succeed has an error. -/
theorem exists_eq_error {result : Except ε α} (isOk : result.isOk = false) :
    ∃ error, result = .error error := by
  cases result with
  | error error => exact ⟨error, rfl⟩
  | ok value => cases isOk

/-- What is to be seen of a result is seen of some result. -/
theorem exists_eq_ok_of_map {result : Except ε α} {project : α → β} {seen : β}
    (sees : result.toOption.map project = some seen) :
    ∃ value, result = .ok value ∧ project value = seen := by
  cases result with
  | error error => cases sees
  | ok value => exact ⟨value, rfl, Option.some.inj sees⟩

/-- A pair whose first part is known. -/
theorem eq_pair {pair : α × β} {first : α} (same : pair.1 = first) :
    pair = (first, pair.2) := by
  rw [← same]

/-- A run of an attempt whose result is known. -/
theorem eq_ok_of_toOption {pair : Except ε α × β} {result : α}
    (same : pair.1.toOption = some result) : pair = (.ok result, pair.2) := by
  rcases pair with ⟨_ | found, after⟩
  · cases same
  · rw [Option.some.inj same]

/-- A run of an attempt that fails. -/
theorem exists_eq_error_of_run {pair : Except ε α × β}
    (fails : pair.1.isOk = false) : ∃ error, pair = (.error error, pair.2) := by
  obtain ⟨error, same⟩ := exists_eq_error fails
  exact ⟨error, eq_pair same⟩

end LiveMarkup
