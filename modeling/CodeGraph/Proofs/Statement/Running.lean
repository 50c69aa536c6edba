import CodeGraph.Proofs.Sequencing
import CodeGraph.Statement.Run

/-!
# How steps of a statement end

A step of a statement ends with a value or with a failure, and in both cases in a state.
What holds at the end of a sequence follows from what holds between its steps.
-/

namespace CodeGraph.Running

variable {α β : Type}

/-- The step ends with a value and in a state that are good, or with a failure and in a
state that are bad. -/
def Ends (action : Running α) (run : Execution) (good : α → Execution → Prop)
    (bad : Failure → Execution → Prop) : Prop :=
  match action.run.run run with
  | (.ok value, after) => good value after
  | (.error failure, after) => bad failure after

/-- However the step ends, the state that it reaches has the property. -/
abbrev EndsIn (action : Running α) (run : Execution) (holds : Execution → Prop) : Prop :=
  Ends action run (fun _ => holds) (fun _ => holds)

namespace Ends

variable {good : β → Execution → Prop} {bad : Failure → Execution → Prop} {run : Execution}

theorem bind {action : Running α} {next : α → Running β}
    {between : α → Execution → Prop} (first : Ends action run between bad)
    (second : ∀ value after, between value after → Ends (next value) after good bad) :
    Ends (action >>= next) run good bad := by
  unfold Ends at first ⊢
  rw [run_bind]
  rcases ended : action.run.run run with ⟨outcome, after⟩
  rw [ended] at first
  cases outcome with
  | error failure => exact first
  | ok value => exact second value after first

theorem of_ok {action : Running β} {value : β} {after : Execution}
    (ends : Ends action run good bad) (ran : action.run.run run = (.ok value, after)) :
    good value after := by
  unfold Ends at ends
  rw [ran] at ends
  exact ends

theorem imp {action : Running β} {better : β → Execution → Prop}
    {worse : Failure → Execution → Prop} (ends : Ends action run better worse)
    (weaken : ∀ value after, better value after → good value after)
    (weakenBad : ∀ failure after, worse failure after → bad failure after) :
    Ends action run good bad := by
  unfold Ends at ends ⊢
  rcases ended : action.run.run run with ⟨outcome, after⟩
  rw [ended] at ends
  cases outcome with
  | error failure => exact weakenBad failure after ends
  | ok value => exact weaken value after ends

theorem mono {action : Running β} {better : β → Execution → Prop}
    (ends : Ends action run better bad)
    (weaken : ∀ value after, better value after → good value after) :
    Ends action run good bad :=
  ends.imp weaken fun _ _ => id

end Ends

namespace EndsIn

variable {holds : Execution → Prop} {run : Execution} {action : Running α}

theorem reached (ends : EndsIn action run holds) : holds (action.run.run run).2 := by
  unfold EndsIn Ends at ends
  rcases ended : action.run.run run with ⟨outcome, after⟩
  rw [ended] at ends
  cases outcome <;> exact ends

theorem imp {better : Execution → Prop} (ends : EndsIn action run better)
    (weaken : ∀ after, better after → holds after) : EndsIn action run holds :=
  Ends.imp ends (fun _ => weaken) fun _ => weaken

/-- The value of a step of which nothing but the state matters does not matter. -/
theorem map (ends : EndsIn action run holds) (value : β) :
    EndsIn (do let _ ← action; return value) run holds :=
  Ends.bind ends fun _ _ => id

end EndsIn

theorem ends_get (run : Execution) {bad : Failure → Execution → Prop} :
    Ends get run (fun value after => value = after ∧ run = after) bad :=
  ⟨rfl, rfl⟩

/-! ## The node of a pattern -/

private theorem run_node (making : Making) (pattern : BoundNode) (run : Execution) :
    (node making pattern).run.run run =
      (match pattern.name, pattern.name.bind run.meanings.find? with
        | some name, some meaning =>
            match meaning with
            | .nodes [cell] =>
                if pattern.properties.entries.isEmpty then return cell
                else fault (.notASingleNode name)
            | _ => fault (.notASingleNode name)
        | _, _ => makeNode making pattern : Running Nat).run.run run := by
  unfold node
  rw [run_bind]
  rfl

theorem run_node_of_unbound (making : Making) {pattern : BoundNode} {run : Execution}
    (unbound : pattern.name.bind run.meanings.find? = none) :
    (node making pattern).run.run run = (makeNode making pattern).run.run run := by
  rw [run_node, unbound]
  cases pattern.name <;> rfl

/-- For a bound variable nothing is made, and its only node is the answer. -/
theorem run_node_of_bound (making : Making) {pattern : BoundNode} {run : Execution}
    {meaning : Meaning} (bound : pattern.name.bind run.meanings.find? = some meaning) :
    ∃ outcome, (node making pattern).run.run run = (outcome, run) ∧
      ∀ cell, outcome = .ok cell → meaning = .nodes [cell] := by
  obtain ⟨name, named, found⟩ := Option.bind_eq_some_iff.mp bound
  rw [run_node, named, Option.bind_some, found]
  match meaning with
  | .nodes [cell] =>
      dsimp only
      split
      · refine ⟨.ok cell, rfl, ?_⟩
        intro answer same
        cases same
        rfl
      · exact ⟨_, rfl, nofun⟩
  | .nodes [] => exact ⟨_, rfl, nofun⟩
  | .nodes (_ :: _ :: _) => exact ⟨_, rfl, nofun⟩
  | .edge _ => exact ⟨_, rfl, nofun⟩

theorem run_node_of_single (making : Making) {pattern : BoundNode} {run : Execution}
    {name : String} {cell : Nat} (named : pattern.name = some name)
    (bare : pattern.properties.entries = [])
    (found : run.meanings.find? name = some (.nodes [cell])) :
    (node making pattern).run.run run = (.ok cell, run) := by
  rw [run_node, named, Option.bind_some, found]
  simp only [bare]
  rfl

theorem run_node_of_several (making : Making) {pattern : BoundNode} {run : Execution}
    {name : String} {cells : List Nat} (named : pattern.name = some name)
    (found : run.meanings.find? name = some (.nodes cells)) (several : cells.length ≠ 1) :
    (node making pattern).run.run run =
      (.error (.unsupportedStatement run.text (.notASingleNode name)), run) := by
  rw [run_node, named, Option.bind_some, found]
  match cells with
  | [] => rfl
  | [_] => exact absurd rfl several
  | _ :: _ :: _ => rfl

end CodeGraph.Running
