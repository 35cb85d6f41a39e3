import Mathlib.Data.List.Forall2

/-!
# Steps that may fail

What a sequence of steps gives, read off the steps, and for steps that change a state what they
leave of it.  The lemmas know nothing of schemas.
-/

namespace SchemaClasses
namespace Steps

variable {ε ε' α β : Type}

/-- Two steps succeed exactly if each of them does. -/
theorem bind_eq_ok_iff {step : Except ε α} {next : α → Except ε β} {result : β} :
    (step >>= next) = .ok result ↔ ∃ value, step = .ok value ∧ next value = .ok result := by
  cases step <;> simp [bind, Except.bind]

/-- The first of two steps fails, or the second one does. -/
theorem bind_eq_error_iff {step : Except ε α} {next : α → Except ε β} {error : ε} :
    (step >>= next) = .error error ↔
      step = .error error ∨ ∃ value, step = .ok value ∧ next value = .error error := by
  cases step <;> simp [bind, Except.bind]

theorem map_eq_ok_iff {step : Except ε α} {change : α → β} {result : β} :
    step.map change = .ok result ↔ ∃ value, step = .ok value ∧ change value = result := by
  cases step <;> simp [Except.map]

theorem map_eq_error_iff {step : Except ε α} {change : α → β} {error : ε} :
    step.map change = .error error ↔ step = .error error := by
  cases step <;> simp [Except.map]

theorem toOption_map_eq_some_iff {step : Except ε α} {view : α → β} {seen : β} :
    step.toOption.map view = some seen ↔ ∃ value, step = .ok value ∧ view value = seen := by
  cases step <;> simp [Except.toOption]

theorem exists_of_isOk {step : Except ε α} (succeeds : step.isOk = true) :
    ∃ value, step = .ok value := by
  cases step with
  | error _ => nomatch succeeds
  | ok value => exact ⟨value, rfl⟩

theorem mapError_eq_ok_iff {step : Except ε α} {change : ε → ε'} {result : α} :
    step.mapError change = .ok result ↔ step = .ok result := by
  cases step with
  | error cause =>
      constructor
      · intro failed
        nomatch failed
      · intro failed
        nomatch failed
  | ok value =>
      constructor
      · intro succeeded
        rw [Except.ok.inj succeeded]
      · intro succeeded
        rw [Except.ok.inj succeeded]
        rfl

theorem mapError_eq_error_iff {step : Except ε α} {change : ε → ε'} {error : ε'} :
    step.mapError change = .error error ↔ ∃ cause, step = .error cause ∧ change cause = error := by
  cases step with
  | error cause =>
      constructor
      · intro failed
        exact ⟨cause, rfl, Except.error.inj failed⟩
      · rintro ⟨_, failed, rfl⟩
        rw [Except.error.inj failed]
        rfl
  | ok value =>
      constructor
      · intro succeeded
        nomatch succeeded
      · rintro ⟨_, succeeded, -⟩
        nomatch succeeded

theorem pure_eq_ok_iff {value result : α} :
    (pure value : Except ε α) = .ok result ↔ value = result := by
  simp [pure, Except.pure]

/-- A step for each item succeeds for all of them exactly if it does for each. -/
theorem mapM_eq_ok_iff {step : α → Except ε β} {items : List α} {results : List β} :
    items.mapM step = .ok results ↔
      List.Forall₂ (fun item result => step item = .ok result) items results := by
  induction items generalizing results with
  | nil => rw [List.mapM_nil, pure_eq_ok_iff, List.forall₂_nil_left_iff, eq_comm]
  | cons item items ih =>
      simp only [List.mapM_cons, bind_eq_ok_iff, pure_eq_ok_iff, ih, List.forall₂_cons_left_iff]
      constructor
      · rintro ⟨result, stepped, rest, related, rfl⟩
        exact ⟨result, rest, stepped, related, rfl⟩
      · rintro ⟨result, rest, stepped, related, rfl⟩
        exact ⟨result, stepped, rest, related, rfl⟩

theorem mapM_eq_some_iff {read : α → Option β} {items : List α} {results : List β} :
    items.mapM read = some results ↔
      List.Forall₂ (fun item result => read item = some result) items results := by
  induction items generalizing results with
  | nil =>
      rw [List.mapM_nil, List.forall₂_nil_left_iff, Option.pure_def, Option.some.injEq, eq_comm]
  | cons item items ih =>
      simp only [List.mapM_cons, List.forall₂_cons_left_iff, Option.bind_eq_bind,
        Option.bind_eq_some_iff, Option.pure_def, Option.some.injEq, ih]
      constructor
      · rintro ⟨result, readEq, rest, related, rfl⟩
        exact ⟨result, rest, readEq, related, rfl⟩
      · rintro ⟨result, rest, readEq, related, rfl⟩
        exact ⟨result, readEq, rest, related, rfl⟩

end Steps

/-- The result of an action on a state, and the state after it. -/
def outcome {σ ε α : Type} (action : ExceptT ε (StateM σ) α) (state : σ) : Except ε α × σ :=
  action.run.run state

section Outcome

variable {σ ε α β : Type} {state after : σ} {action : ExceptT ε (StateM σ) α}

@[simp]
theorem outcome_pure (value : α) (state : σ) :
    outcome (pure value : ExceptT ε (StateM σ) α) state = (.ok value, state) :=
  rfl

@[simp]
theorem outcome_mk_pure (result : Except ε α) (state : σ) :
    outcome (ExceptT.mk (pure result)) state = (result, state) :=
  rfl

theorem outcome_bind (action : ExceptT ε (StateM σ) α) (next : α → ExceptT ε (StateM σ) β)
    (state : σ) :
    outcome (action >>= next) state =
      match outcome action state with
      | (.ok value, middle) => outcome (next value) middle
      | (.error failure, middle) => (.error failure, middle) := by
  change (action.run.run state >>= fun result => (ExceptT.bindCont next result.1).run result.2) = _
  unfold outcome
  obtain ⟨result, middle⟩ := action.run.run state
  cases result <;> rfl

/-- One action after another succeeds exactly if each succeeds on the state that it finds. -/
theorem outcome_bind_eq_ok_iff {next : α → ExceptT ε (StateM σ) β} {result : β} :
    outcome (action >>= next) state = (.ok result, after) ↔
      ∃ value middle, outcome action state = (.ok value, middle) ∧
        outcome (next value) middle = (.ok result, after) := by
  rw [outcome_bind]
  obtain ⟨first, middle⟩ := outcome action state
  cases first with
  | error failure => simp
  | ok value =>
      constructor
      · intro finished
        exact ⟨value, middle, rfl, finished⟩
      · rintro ⟨_, _, firstEq, finished⟩
        obtain ⟨valueEq, rfl⟩ := Prod.mk.inj firstEq
        obtain rfl := Except.ok.inj valueEq
        exact finished

/-- The first of two actions fails, or the second one does on the state that it finds. -/
theorem outcome_bind_eq_error_iff {next : α → ExceptT ε (StateM σ) β} {failure : ε} :
    outcome (action >>= next) state = (.error failure, after) ↔
      outcome action state = (.error failure, after) ∨
        ∃ value middle, outcome action state = (.ok value, middle) ∧
          outcome (next value) middle = (.error failure, after) := by
  rw [outcome_bind]
  obtain ⟨first, middle⟩ := outcome action state
  cases first with
  | error failure => simp
  | ok value =>
      constructor
      · intro failed
        exact Or.inr ⟨value, middle, rfl, failed⟩
      · rintro (atFirst | ⟨_, _, firstEq, failed⟩)
        · nomatch atFirst
        · obtain ⟨valueEq, rfl⟩ := Prod.mk.inj firstEq
          obtain rfl := Except.ok.inj valueEq
          exact failed

end Outcome
end SchemaClasses
