import CodeGraph.Failure

/-!
# Failing steps in sequence

A sequence of steps is taken apart at its first step: it goes on with the value and the
state that the step reaches, or it ends with the failure of the step.
-/

namespace CodeGraph

variable {α β : Type}

theorem exists_of_bind_eq_ok {first : Except Failure α} {next : α → Except Failure β}
    {result : β} (passed : first >>= next = .ok result) :
    ∃ value, first = .ok value ∧ next value = .ok result := by
  cases first with
  | error failure => cases passed
  | ok value => exact ⟨value, rfl, passed⟩

theorem run_bind {σ : Type} (action : ExceptT Failure (StateM σ) α)
    (next : α → ExceptT Failure (StateM σ) β) (state : σ) :
    (action >>= next).run.run state =
      match action.run.run state with
      | (.ok value, after) => (next value).run.run after
      | (.error failure, after) => (.error failure, after) := by
  change StateT.run (ExceptT.run (action >>= next)) state = _
  rw [ExceptT.run_bind, StateT.run_bind]
  rcases action.run.run state with ⟨outcome, after⟩
  cases outcome <;> rfl

theorem run_get {σ : Type} (state : σ) :
    (get : ExceptT Failure (StateM σ) σ).run.run state = (.ok state, state) := rfl

theorem run_tryCatch {σ : Type} (action : ExceptT Failure (StateM σ) α)
    (handle : Failure → ExceptT Failure (StateM σ) α) (state : σ) :
    (tryCatch action handle).run.run state =
      match action.run.run state with
      | (.ok value, after) => (.ok value, after)
      | (.error failure, after) => (handle failure).run.run after := by
  change StateT.run (ExceptT.run (tryCatch action handle)) state = _
  rw [ExceptT.run_tryCatch, StateT.run_bind]
  rcases action.run.run state with ⟨outcome, after⟩
  cases outcome <;> rfl

end CodeGraph
