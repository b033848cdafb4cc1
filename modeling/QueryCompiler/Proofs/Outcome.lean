/-!
# Steps that may fail

What a sequence of steps gives, when each of them may fail with an error.  A step
after a success goes on with its value, and a sequence succeeds exactly when all
of its steps do.  Otherwise its error is the one of the first step that fails.
-/

namespace QueryCompiler.Outcome

variable {ε δ α β : Type}

@[simp]
theorem pure_eq (value : α) : (pure value : Except ε α) = .ok value := rfl

@[simp]
theorem ok_bind (value : α) (next : α → Except ε β) :
    ((.ok value : Except ε α) >>= next) = next value := rfl

@[simp]
theorem error_bind (error : ε) (next : α → Except ε β) :
    ((.error error : Except ε α) >>= next) = .error error := rfl

@[simp]
theorem map_ok (change : α → β) (value : α) :
    (Except.ok value : Except ε α).map change = .ok (change value) := rfl

@[simp]
theorem map_error (change : α → β) (error : ε) :
    (Except.error error : Except ε α).map change = .error error := rfl

@[simp]
theorem mapError_ok (change : ε → δ) (value : α) :
    (Except.ok value : Except ε α).mapError change = .ok value := rfl

@[simp]
theorem mapError_error (change : ε → δ) (error : ε) :
    (Except.error error : Except ε α).mapError change = .error (change error) := rfl

/-- Two steps succeed when the first one does and the second one does with its
value. -/
theorem bind_eq_ok {step : Except ε α} {next : α → Except ε β} {result : β} :
    (step >>= next) = .ok result ↔
      ∃ value, step = .ok value ∧ next value = .ok result := by
  cases step with
  | error error => simp
  | ok value => simp

/-- A list is collected when its first item and the others are. -/
theorem cons_eq_ok {first : Except ε α} {rest : Except ε (List α)} {result : List α} :
    (first >>= fun value => rest >>= fun values => pure (value :: values)) = .ok result ↔
      ∃ value values, first = .ok value ∧ rest = .ok values ∧ result = value :: values := by
  constructor
  · intro collected
    obtain ⟨value, firstOk, collected⟩ := bind_eq_ok.mp collected
    obtain ⟨values, restOk, last⟩ := bind_eq_ok.mp collected
    cases last
    exact ⟨value, values, firstOk, restOk, rfl⟩
  · rintro ⟨value, values, rfl, rfl, rfl⟩
    rfl

theorem exists_cons_eq_ok {first : Except ε α} {rest : Except ε (List α)} :
    (∃ result, (first >>= fun value => rest >>= fun values => pure (value :: values)) =
        .ok result) ↔
      (∃ value, first = .ok value) ∧ ∃ values, rest = .ok values := by
  cases first with
  | error error => simp
  | ok value =>
      cases rest with
      | error error => simp
      | ok values => simp

/-- A list fails with its first item, or with the others if the first item succeeds. -/
theorem cons_eq_error {first : Except ε α} {rest : Except ε (List α)} {error : ε} :
    (first >>= fun value => rest >>= fun values => pure (value :: values)) = .error error ↔
      first = .error error ∨ (∃ value, first = .ok value) ∧ rest = .error error := by
  cases first with
  | error other => simp
  | ok value =>
      cases rest with
      | error other => simp
      | ok values => simp

/-- A step that succeeds passes its value on to what is made of it. -/
theorem bind_pure_of_ok {step : Except ε α} {value : α} (succeeded : step = .ok value)
    (make : α → β) : (step >>= fun result => pure (make result)) = .ok (make value) := by
  rw [succeeded]
  rfl

/-- Nothing comes after a step that fails. -/
theorem bind_of_error {step : Except ε α} {error : ε} (failed : step = .error error)
    (next : α → Except ε β) : (step >>= next) = .error error := by
  rw [failed]
  rfl

theorem map_eq_ok {change : α → β} {step : Except ε α} {result : β} :
    step.map change = .ok result ↔ ∃ value, step = .ok value ∧ change value = result := by
  cases step with
  | error error => simp
  | ok value => simp

/-- Two sequences of steps give the same view of their results if their first steps do and
what follows keeps it so. -/
theorem map_bind_congr {γ ζ : Type} {first second : Except ε α} {next other : α → Except ε β}
    {view : α → γ} {result : β → ζ} (same : first.map view = second.map view)
    (following : ∀ value otherValue, view value = view otherValue →
      (next value).map result = (other otherValue).map result) :
    (first >>= next).map result = (second >>= other).map result := by
  cases first with
  | error error =>
      cases second with
      | error otherError => simpa using same
      | ok otherValue => simp at same
  | ok value =>
      cases second with
      | error otherError => simp at same
      | ok otherValue =>
          have equal : view value = view otherValue := by simpa using same
          exact following value otherValue equal

/-- What is made of the result of a sequence can be made in what follows its first step. -/
theorem bind_eq_map_bind {γ : Type} {step : Except ε α} {next : α → Except ε β}
    {onto : α → Except ε γ} {change : β → γ}
    (following : ∀ value, onto value = (next value).map change) :
    (step >>= onto) = (step >>= next).map change := by
  cases step with
  | error error => rfl
  | ok value => exact following value

theorem map_bind_congr_right {γ : Type} {step : Except ε α} {next other : α → Except ε β}
    {view : β → γ} (following : ∀ value, (next value).map view = (other value).map view) :
    (step >>= next).map view = (step >>= other).map view := by
  rw [← bind_eq_map_bind fun _ => rfl]
  exact bind_eq_map_bind following

theorem map_bind {γ : Type} {change : α → β} {step : Except ε α} {next : β → Except ε γ} :
    (step.map change >>= next) = step >>= fun value => next (change value) := by
  cases step with
  | error error => rfl
  | ok value => rfl

theorem mapError_map {change : ε → δ} {view : α → β} {step : Except ε α} :
    (step.map view).mapError change = (step.mapError change).map view := by
  cases step with
  | error error => rfl
  | ok value => rfl

theorem exists_map_eq_ok {change : α → β} {step : Except ε α} :
    (∃ result, step.map change = .ok result) ↔ ∃ value, step = .ok value := by
  cases step with
  | error error => simp
  | ok value => simp

theorem map_eq_error {change : α → β} {step : Except ε α} {error : ε} :
    step.map change = .error error ↔ step = .error error := by
  cases step with
  | error other => simp
  | ok value => simp

theorem mapError_eq_ok {change : ε → δ} {step : Except ε α} {result : α} :
    step.mapError change = .ok result ↔ step = .ok result := by
  cases step with
  | error error => simp
  | ok value => simp

/-! ## Errors -/

/-- The error of a step, unless it succeeds. -/
def error? : Except ε α → Option ε
  | .ok _ => none
  | .error error => some error

@[simp]
theorem error?_ok (value : α) : error? (.ok value : Except ε α) = none := rfl

@[simp]
theorem error?_error (error : ε) : error? (.error error : Except ε α) = some error := rfl

theorem error?_eq_some_iff {step : Except ε α} {error : ε} :
    error? step = some error ↔ step = .error error := by
  cases step with
  | error other => simp
  | ok value => simp

theorem error?_eq_none_iff {step : Except ε α} :
    error? step = none ↔ ∃ value, step = .ok value := by
  cases step with
  | error error => simp
  | ok value => simp

theorem error?_mapError (change : ε → δ) (step : Except ε α) :
    error? (step.mapError change) = (error? step).map change := by
  cases step with
  | error error => rfl
  | ok value => rfl

/-- A step comes first with its error.  The error of what follows it comes next, if it
is the same for every value of the step. -/
theorem error?_bind {step : Except ε α} {next : α → Except ε β} (later : Option ε)
    (following : ∀ value, step = .ok value → error? (next value) = later) :
    error? (step >>= next) = (error? step).or later := by
  cases step with
  | error error => rfl
  | ok value => exact following value rfl

theorem error?_bind_of_ok {step : Except ε α} {next : α → Except ε β}
    (following : ∀ value, step = .ok value → error? (next value) = none) :
    error? (step >>= next) = error? step :=
  (error?_bind none following).trans Option.or_none

end QueryCompiler.Outcome
