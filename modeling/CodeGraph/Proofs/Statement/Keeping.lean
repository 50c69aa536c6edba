import Mathlib.Data.List.Nodup
import CodeGraph.Proofs.Statement.Effects

/-!
# What running leaves alone

A property of an execution that does not depend on the store, nor on a count, and that stays
when a variable comes to denote distinct nodes and relationships or is unbound, holds after
every clause if it holds before it, however the clause ends.
-/

namespace CodeGraph

theorem BoundClause.exists_of_deletes (clause : BoundClause) (deletes : clause.Deletes) :
    ∃ names detach, clause = .delete names detach := by
  cases clause with
  | delete names detach => exact ⟨names, detach, rfl⟩
  | node | path | select | set => cases deletes

namespace Running

variable {α β : Type} {holds : Execution → Prop}

/-- However the step ends, the property is kept. -/
def Preserves (holds : Execution → Prop) (action : Running α) : Prop :=
  ∀ run, holds run → EndsIn action run holds

theorem nodup_matchNodes (store : Store) (label : Option String) (properties : Properties) :
    (Meaning.nodes (store.matchNodes label properties)).entities.Nodup := by
  have distinct : (store.matchNodes label properties).Nodup :=
    List.Nodup.filter _ (List.Nodup.filter _ List.nodup_range)
  exact distinct.map fun _ _ => Entity.node.inj

namespace Preserves

theorem pure (value : α) : Preserves holds (Pure.pure value) := fun _ => id

theorem get : Preserves holds MonadState.get := fun _ => id

theorem fault (reason : StatementFault) : Preserves holds (Running.fault reason : Running α) :=
  fun _ => id

theorem bind {action : Running α} {next : α → Running β} (first : Preserves holds action)
    (second : ∀ value, Preserves holds (next value)) : Preserves holds (action >>= next) :=
  fun run before => Ends.bind (first run before) fun value between => second value between

theorem map {action : Running α} (first : Preserves holds action) (value : β) :
    Preserves holds (do let _ ← action; return value) :=
  first.bind fun _ => pure value

section

variable (stored : ∀ run store, holds run → holds { run with store })

include stored in
theorem change (operation : Store → Nat × Store) : Preserves holds (Running.change operation) :=
  fun run => stored run _

include stored in
theorem set (name : String) (properties : Properties) :
    Preserves holds (Running.set name properties) := by
  refine get.bind ?_
  intro run
  split
  · exact fun run => stored run _
  · exact fun run => stored run _
  · exact fault _

variable (bound : ∀ run name meaning, meaning.entities.Nodup → holds run →
  holds { run with meanings := run.meanings.insert name meaning })

include bound in
theorem bindName (name : Option String) {meaning : Meaning} (distinct : meaning.entities.Nodup) :
    Preserves holds (Running.bindName name meaning) := by
  cases name with
  | none => exact pure _
  | some name => exact fun run => bound run name meaning distinct

include bound in
theorem select (patterns : List BoundNode) : Preserves holds (Running.select patterns) := by
  induction patterns with
  | nil => exact pure _
  | cons pattern patterns induction =>
      refine get.bind ?_
      intro run
      dsimp only
      split
      · exact pure _
      · have distinct := nodup_matchNodes run.store pattern.label pattern.properties
        exact (bindName bound pattern.name distinct).bind fun _ => induction

variable (counted : ∀ run counts, counts.deleted = 0 → holds run →
  holds { run with counts := run.counts.add counts })

include stored bound counted in
theorem makeNode (making : Making) (pattern : BoundNode) :
    Preserves holds (Running.makeNode making pattern) := by
  unfold Running.makeNode
  split
  · exact fault _
  · have counts : Preserves holds (count { nodes := 1 }) := fun run => counted run _ rfl
    have binds : ∀ cell, Preserves holds (Running.bindName pattern.name (.nodes [cell])) :=
      fun cell => bindName bound _ (List.nodup_singleton _)
    exact (change stored _).bind fun _ => counts.bind fun _ => (binds _).map _

include stored bound counted in
theorem node (making : Making) (pattern : BoundNode) :
    Preserves holds (Running.node making pattern) := by
  refine get.bind ?_
  intro run
  dsimp only
  split
  · split
    · split
      · exact pure _
      · exact fault _
    · exact fault _
  · exact makeNode stored bound counted making pattern

include stored bound counted in
theorem path (making : Making) (source : BoundNode) (relation : BoundRelation)
    (target : BoundNode) : Preserves holds (Running.path making source relation target) := by
  have counts : Preserves holds (count { relationships := 1 }) := fun run => counted run _ rfl
  have ends := node stored bound counted making
  exact (ends source).bind fun _ => (ends target).bind fun _ => (change stored _).bind fun _ =>
    counts.bind fun _ => bindName bound _ (List.nodup_singleton _)

include stored bound counted in
theorem clause_of_not_deletes {first : BoundClause} (kept : ¬first.Deletes) :
    Preserves holds (clause first) := by
  cases first with
  | node making pattern => exact (node stored bound counted making pattern).map true
  | path making source relation target =>
      exact (path stored bound counted making source relation target).map true
  | select patterns => exact select bound patterns
  | set name properties => exact (set stored name properties).map true
  | delete names detach => exact absurd trivial kept

end

section

variable (stored : ∀ run store, holds run → holds { run with store })
  (bound : ∀ run name meaning, meaning.entities.Nodup → holds run →
    holds { run with meanings := run.meanings.insert name meaning })
  (unbound : ∀ run name, holds run → holds { run with meanings := run.meanings.erase name })
  (counted : ∀ run counts, holds run → holds { run with counts := run.counts.add counts })

include stored counted in
theorem deleteNodes (detach : Bool) (cells : List Nat) :
    Preserves holds (Running.deleteNodes detach cells) := by
  induction cells with
  | nil => exact pure _
  | cons cell cells induction =>
      refine get.bind ?_
      intro run
      split
      · exact fun _ => id
      · have modified : ∀ after,
            Preserves holds (modify fun run => { run with store := after }) :=
          fun after run => stored run after
        have counts : Preserves holds (count { deleted := 1 }) := fun run => counted run _
        exact (modified _).bind fun _ => counts.bind fun _ => induction

include stored unbound counted in
theorem delete (detach : Bool) (names : List String) :
    Preserves holds (Running.delete detach names) := by
  induction names with
  | nil => exact pure _
  | cons name names induction =>
      refine get.bind ?_
      intro run
      have unbinds : Preserves holds (modify fun run =>
          { run with meanings := run.meanings.erase name }) := fun run => unbound run name
      refine unbinds.bind ?_
      intro _
      split
      · exact (fault _).bind fun _ => induction
      · have removes : ∀ cell, Preserves holds (changeStore fun store => store.deleteEdge cell) :=
          fun _ run => stored run _
        have counts : Preserves holds (count { deleted := 1 }) := fun run => counted run _
        exact (removes _).bind fun _ => counts.bind fun _ => induction
      · exact (deleteNodes stored counted detach _).bind fun _ => induction

include stored bound unbound counted in
theorem clause (first : BoundClause) : Preserves holds (Running.clause first) := by
  by_cases deletes : first.Deletes
  · obtain ⟨names, detach, rfl⟩ := first.exists_of_deletes deletes
    exact (delete stored unbound counted detach names).map true
  · exact clause_of_not_deletes stored bound (fun run counts _ => counted run counts) deletes

end

end Preserves

end Running

end CodeGraph
