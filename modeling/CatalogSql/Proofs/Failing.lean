/-!
# Steps that may fail

When a chain of steps that may fail succeeds, each of its steps has.
-/

namespace CatalogSql

variable {ε δ α β : Type}

/-- Two steps succeed exactly if the first does, and the second with its value. -/
theorem bind_eq_ok_iff {step : Except ε α} {next : α → Except ε β} {result : β} :
    (step >>= next) = .ok result ↔ ∃ value, step = .ok value ∧ next value = .ok result := by
  cases step with
  | error error => simp [bind, Except.bind]
  | ok value => simp [bind, Except.bind]

/-- A chain of steps fails where one of its steps does. -/
theorem bind_eq_error_iff {step : Except ε α} {next : α → Except ε β} {error : ε} :
    (step >>= next) = .error error ↔
      step = .error error ∨ ∃ value, step = .ok value ∧ next value = .error error := by
  cases step with
  | error error => simp [bind, Except.bind]
  | ok value => simp [bind, Except.bind]

/-- A step that may fail gives a value unless it fails. -/
theorem exists_ok_iff {step : Except ε α} :
    (∃ value, step = .ok value) ↔ ∀ error, step ≠ .error error := by
  cases step with
  | error error => simp
  | ok value => simp

theorem map_eq_ok_iff {step : Except ε α} {change : α → β} {result : β} :
    step.map change = .ok result ↔ ∃ value, step = .ok value ∧ change value = result := by
  cases step with
  | error error => simp [Except.map]
  | ok value => simp [Except.map]

theorem map_eq_error_iff {step : Except ε α} {change : α → β} {error : ε} :
    step.map change = .error error ↔ step = .error error := by
  cases step <;> simp [Except.map]

theorem mapError_eq_ok_iff {step : Except ε α} {change : ε → δ} {result : α} :
    step.mapError change = .ok result ↔ step = .ok result := by
  cases step with
  | error error => constructor <;> rintro ⟨⟩
  | ok value =>
      constructor
      · rintro ⟨⟩
        rfl
      · rintro ⟨⟩
        rfl

theorem mapError_eq_error_iff {step : Except ε α} {change : ε → δ} {error : δ} :
    step.mapError change = .error error ↔ ∃ cause, step = .error cause ∧ change cause = error := by
  cases step with
  | error cause =>
      constructor
      · rintro ⟨⟩
        exact ⟨cause, rfl, rfl⟩
      · rintro ⟨_, ⟨⟩, rfl⟩
        rfl
  | ok value =>
      constructor
      · rintro ⟨⟩
      · rintro ⟨_, ⟨⟩, -⟩

end CatalogSql
