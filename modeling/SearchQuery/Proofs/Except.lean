/-!
# Results of steps that may fail

What it takes for a sequence of steps to succeed.
-/

namespace SearchQuery

variable {ε α β : Type}

theorem bind_eq_ok {result : Except ε α} {next : α → Except ε β} {value : β} :
    (result >>= next) = .ok value ↔ ∃ first, result = .ok first ∧ next first = .ok value := by
  cases result <;> simp [bind, Except.bind]

theorem ok_bind (value : α) (next : α → Except ε β) : (.ok value >>= next) = next value := rfl

theorem pure_eq_ok {first value : α} : (pure first : Except ε α) = .ok value ↔ first = value := by
  simp [pure, Except.pure]

theorem map_some_eq_ok {result : Except ε α} {value : α} :
    result.map some = .ok (some value) ↔ result = .ok value := by
  cases result <;> simp [Except.map]

theorem cons_eq_ok {first : Except ε α} {rest : Except ε (List α)} {value : α} {values : List α} :
    (do return (← first) :: (← rest)) = .ok (value :: values) ↔
      first = .ok value ∧ rest = .ok values := by
  cases first <;> cases rest <;> simp [bind, Except.bind, pure, Except.pure]

theorem length_mapM {step : α → Except ε β} {list : List α} {results : List β}
    (h : list.mapM step = .ok results) : results.length = list.length := by
  induction list generalizing results with
  | nil =>
    cases h
    rfl
  | cons first rest ih =>
    simp only [List.mapM_cons, bind_eq_ok, pure_eq_ok] at h
    obtain ⟨result, -, others, hothers, rfl⟩ := h
    rw [List.length_cons, List.length_cons, ih hothers]

/-- The failure of a step, if it fails. -/
def failure? : Except ε α → Option ε
  | .error failure => some failure
  | .ok _ => none

@[simp] theorem failure?_pure (value : α) : failure? (pure value : Except ε α) = none := rfl

theorem failure?_eq_some {result : Except ε α} {failure : ε} :
    failure? result = some failure ↔ result = .error failure := by
  cases result <;> simp [failure?]

theorem failure?_map (f : α → β) (result : Except ε α) :
    failure? (result.map f) = failure? result := by
  cases result <;> rfl

/-- A sequence fails with its first failure. -/
theorem failure?_bind {result : Except ε α} {next : α → Except ε β} {later : Option ε}
    (h : ∀ value, result = .ok value → failure? (next value) = later) :
    failure? (result >>= next) = (failure? result).or later := by
  cases result with
  | error => rfl
  | ok value => exact h value rfl

end SearchQuery
