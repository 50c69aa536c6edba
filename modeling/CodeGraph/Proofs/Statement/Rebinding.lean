import CodeGraph.Proofs.Statement.Lifetime
import Mathlib.Data.List.Induction

/-!
# A variable is bound while it is unbound

What a clause makes it binds to variables that are unbound, and to each of them once.  A
selecting clause binds its variables whatever they denote: the check lets it bind a bound one
again, which then denotes all that is selected.  A variable that no selecting clause binds again
denotes at each use what it has denoted since it was bound.
-/

namespace CodeGraph

/-- The variable that the pattern binds to a node the clause makes. -/
def BoundNode.bindings (node : BoundNode) : List String :=
  if node.label.isSome then node.name.toList else []

namespace BoundNode

variable {node : BoundNode} {name : String}

theorem mem_bindings : name ∈ node.bindings ↔ node.Binds name := by
  unfold bindings Binds
  split <;> simp_all

theorem count_bindings (binds : node.Binds name) : node.bindings.count name = 1 := by
  rw [bindings, if_pos binds.2, binds.1]
  exact List.count_singleton_self

theorem count_bindings_eq_zero (unbound : ¬node.Binds name) : node.bindings.count name = 0 :=
  List.count_eq_zero.mpr (mt mem_bindings.mp unbound)

end BoundNode

namespace BoundClause

variable {text name : String} {first : BoundClause} {bound after sorts : VariableSorts}

/-- The variables that the clause binds, each as often as it does. -/
def bindings : BoundClause → List String
  | node _ pattern => pattern.bindings
  | path _ source relation target =>
      source.bindings ++ target.bindings ++ relation.name.toList
  | select patterns => patterns.filterMap (·.name)
  | set _ _ | delete _ _ => []

theorem mem_bindings : name ∈ first.bindings ↔ first.Binds name := by
  cases first <;> simp [bindings, Binds, BoundNode.mem_bindings]

/-- A clause that makes something binds no variable twice. -/
theorem count_bindings_of_makes (checked : first.check text bound = .ok after)
    (makes : first.Makes) (binds : first.Binds name) : first.bindings.count name = 1 := by
  cases first with
  | node making pattern => exact BoundNode.count_bindings binds
  | path making source relation target =>
      obtain ⟨afterSource, sourceChecked, rest⟩ := exists_of_bind_eq_ok checked
      obtain ⟨afterTarget, targetChecked, related⟩ := exists_of_bind_eq_ok rest
      -- a variable that an end has bound is bound when the relationship is checked
      have unrelated : (afterTarget.find? name).isSome = true → relation.name ≠ some name := by
        intro found named
        rw [named] at related
        dsimp only at related
        split at related
        next => cases related
        next missing =>
          rw [missing] at found
          cases found
      have without : relation.name ≠ some name → relation.name.toList.count name = 0 := by
        intro different
        exact List.count_eq_zero.mpr (by simpa using different)
      simp only [bindings, List.count_append]
      by_cases inSource : source.Binds name
      · have found := (BoundNode.sorts_of_binds sourceChecked inSource).2
        have elsewhere : ¬target.Binds name := by
          intro inTarget
          rw [(BoundNode.sorts_of_binds targetChecked inTarget).1] at found
          cases found
        rw [BoundNode.count_bindings inSource, BoundNode.count_bindings_eq_zero elsewhere,
          without (unrelated (BoundNode.bound_of_check targetChecked found))]
      · rw [BoundNode.count_bindings_eq_zero inSource]
        by_cases inTarget : target.Binds name
        · rw [BoundNode.count_bindings inTarget,
            without (unrelated (BoundNode.sorts_of_binds targetChecked inTarget).2)]
        · have named : relation.name = some name :=
            (binds.resolve_left inSource).resolve_left inTarget
          rw [BoundNode.count_bindings_eq_zero inTarget, named]
          simp
  | select patterns => cases makes
  | set changed properties => cases makes
  | delete names detach => cases makes

/-- A selecting clause binds the variable at most once, and only if it is unbound. -/
def selectsUnbound (name : String) (bound : VariableSorts) : BoundClause → Bool
  | select patterns =>
      (patterns.filterMap (·.name)).count name ≤ if (bound.find? name).isNone then 1 else 0
  | node _ _ | path _ _ _ _ | set _ _ | delete _ _ => true

/-- The variables that a clause binds are unbound before, and it binds each of them once. -/
theorem unbound_of_binds (checked : first.check text bound = .ok after)
    (binds : first.Binds name)
    (allowed : first.Makes ∨ first.selectsUnbound name bound = true) :
    first.bindings.count name = 1 ∧ bound.find? name = none := by
  by_cases makes : first.Makes
  · exact ⟨count_bindings_of_makes checked makes binds, (sorts_of_binds checked makes binds).1⟩
  · have unbound := allowed.resolve_left makes
    have positive : 0 < first.bindings.count name := List.count_pos_iff.mpr (mem_bindings.mpr binds)
    cases first with
    | node making pattern => exact absurd trivial makes
    | path making source relation target => exact absurd trivial makes
    | select patterns =>
        have bounded := of_decide_eq_true unbound
        rw [bindings] at positive ⊢
        cases sort : bound.find? name with
        | none =>
            rw [sort] at bounded
            exact ⟨Nat.le_antisymm bounded positive, rfl⟩
        | some _ =>
            rw [sort] at bounded
            exact absurd positive (Nat.not_lt.mpr bounded)
    | set changed properties => cases binds
    | delete names detach => cases binds

/-- No selecting clause binds the variable while it is bound. -/
def allSelectUnbound (text name : String) : VariableSorts → List BoundClause → Bool
  | _, [] => true
  | bound, first :: rest =>
      first.selectsUnbound name bound &&
        match first.check text bound with
        | .ok after => allSelectUnbound text name after rest
        | .error _ => true

theorem selectsUnbound_of_all {before rest : List BoundClause}
    (all : allSelectUnbound text name bound (before ++ first :: rest) = true)
    (checked : before.foldlM (check text) bound = .ok sorts) :
    first.selectsUnbound name sorts = true := by
  induction before generalizing bound with
  | nil =>
      cases checked
      exact (Bool.and_eq_true_iff.mp all).1
  | cons clause before induction =>
      rw [List.foldlM_cons] at checked
      obtain ⟨between, clauseChecked, restChecked⟩ := exists_of_bind_eq_ok checked
      have later := (Bool.and_eq_true_iff.mp all).2
      rw [clauseChecked] at later
      exact induction later restChecked

end BoundClause

/-- Does no selecting clause of the statement bind the variable while it is bound? -/
def BoundStatement.selectsUnbound (statement : BoundStatement) (name : String) : Bool :=
  BoundClause.allSelectUnbound statement.text name OrderedMap.empty statement.clauses

namespace Running

variable {start run after : Execution} {before : List BoundClause} {first next : BoundClause}
  {name : String} {meaning : Meaning}

/-- The clauses have bound the variable while it was unbound, and it has denoted the same ever
since. -/
inductive FirstBound (start : Execution) (name : String) (meaning : Meaning) :
    List BoundClause → Execution → Prop where
  | bound {before : List BoundClause} {binding : BoundClause} {unbound run : Execution} :
      through before start = some unbound → unbound.meanings.find? name = none →
      (clause binding).run.run unbound = (.ok true, run) → binding.Binds name →
      run.meanings.find? name = some meaning →
      FirstBound start name meaning (before ++ [binding]) run
  | kept {before : List BoundClause} {next : BoundClause} {run after : Execution} :
      FirstBound start name meaning before run →
      (clause next).run.run run = (.ok true, after) → ¬next.Binds name →
      after.meanings.find? name = some meaning →
      FirstBound start name meaning (before ++ [next]) after

theorem through_concat : through (before ++ [next]) start = some after ↔
    ∃ run, through before start = some run ∧ (clause next).run.run run = (.ok true, after) := by
  rw [through_append, Option.bind_eq_some_iff]
  constructor
  · rintro ⟨run, ran, last⟩
    obtain ⟨reached, ended, nothing⟩ := through_cons.mp last
    cases nothing
    exact ⟨run, ran, ended⟩
  · rintro ⟨run, ran, ended⟩
    exact ⟨run, ran, through_cons.mpr ⟨after, ended, rfl⟩⟩

/-- Checked clauses whose variable no selecting clause binds again give it what it denotes once. -/
theorem firstBound_of_through {text : String} {sorts : VariableSorts} {rest : List BoundClause}
    (ran : through before start = some run) (nothing : start.meanings = OrderedMap.empty)
    (checked : before.foldlM (BoundClause.check text) OrderedMap.empty = .ok sorts)
    (all : BoundClause.allSelectUnbound text name OrderedMap.empty (before ++ rest) = true)
    (found : run.meanings.find? name = some meaning) :
    FirstBound start name meaning before run := by
  have agrees : Agrees (fun _ => True) OrderedMap.empty start.meanings := nothing ▸ Agrees.empty
  induction before using List.reverseRecOn generalizing run sorts rest with
  | nil =>
      cases ran
      rw [nothing] at found
      cases found
  | append_singleton before next induction =>
      obtain ⟨between, reaches, ended⟩ := through_concat.mp ran
      rw [List.foldlM_append] at checked
      obtain ⟨sortsBetween, beforeChecked, others⟩ := exists_of_bind_eq_ok checked
      rw [List.foldlM_cons] at others
      obtain ⟨sortsAfter, nextChecked, -⟩ := exists_of_bind_eq_ok others
      rw [List.append_assoc, List.singleton_append] at all
      by_cases binds : next.Binds name
      · have unbound := (BoundClause.unbound_of_binds nextChecked binds
          (.inr (BoundClause.selectsUnbound_of_all all beforeChecked))).2
        have missing : between.meanings.find? name = none :=
          (agrees_through reaches beforeChecked agrees).find?_eq_none unbound
        exact .bound reaches missing ended binds found
      · rcases (effect_of_run ended).meanings name with same | unbound | ⟨bound, -⟩
        · have earlier := induction reaches beforeChecked all (same.symm.trans found)
          exact .kept earlier ended binds found
        · rw [found] at unbound
          cases unbound
        · exact absurd bound binds

/-- A clause binds only variables that are unbound, each of them once, and changes only what a
variable has denoted since it was bound, with the relationships at the nodes that it deletes: all
this of the variables that no selecting clause binds while they are bound. -/
theorem binds_unbound_of_prepare {statement : Statement} {prepared : BoundStatement}
    (passed : statement.prepare = .ok prepared) {store : Store}
    {before rest : List BoundClause} {first : BoundClause}
    (split : prepared.clauses = before ++ first :: rest) {run : Execution}
    (ran : through before { text := prepared.text, store } = some run) :
    (∀ name, first.Binds name → first.Makes ∨ prepared.selectsUnbound name = true →
      first.bindings.count name = 1 ∧ run.meanings.find? name = none) ∧
    (∀ name, first.Uses name → ∃ meaning, run.meanings.find? name = some meaning ∧
      (prepared.selectsUnbound name = true →
        FirstBound { text := prepared.text, store } name meaning before run)) ∧
    ∃ outcome after, (clause first).run.run run = (outcome, after) ∧
      ∀ entity content, run.store.entity? entity = some content →
        after.store.entity? entity = some content ∨
        ∃ name meaning, first.Uses name ∧ run.meanings.find? name = some meaning ∧
          (prepared.selectsUnbound name = true →
            FirstBound { text := prepared.text, store } name meaning before run) ∧
          (entity ∈ meaning.entities ∨
            first.Deletes ∧ ∃ cell, Entity.node cell ∈ meaning.entities ∧
              run.store.Attached cell entity) := by
  obtain ⟨sorts, checked⟩ := Statement.check_of_prepare passed
  rw [BoundStatement.check, split, List.foldlM_append] at checked
  obtain ⟨between, beforeChecked, others⟩ := exists_of_bind_eq_ok checked
  rw [List.foldlM_cons] at others
  obtain ⟨after, firstChecked, -⟩ := exists_of_bind_eq_ok others
  have agrees := agrees_through ran beforeChecked Agrees.empty
  have once : ∀ name meaning, run.meanings.find? name = some meaning →
      prepared.selectsUnbound name = true →
      FirstBound { text := prepared.text, store } name meaning before run := by
    intro name meaning found unbound
    rw [BoundStatement.selectsUnbound, split] at unbound
    exact firstBound_of_through ran rfl beforeChecked unbound found
  refine ⟨?_, ?_, _, _, rfl, ?_⟩
  · intro name binds allowed
    have allowedHere : first.Makes ∨ first.selectsUnbound name between = true := by
      refine allowed.imp_right fun unbound => ?_
      rw [BoundStatement.selectsUnbound, split] at unbound
      exact BoundClause.selectsUnbound_of_all unbound beforeChecked
    obtain ⟨single, unbound⟩ := BoundClause.unbound_of_binds firstChecked binds allowedHere
    exact ⟨single, agrees.find?_eq_none unbound⟩
  · intro name uses
    obtain ⟨meaning, found⟩ := Option.ne_none_iff_exists'.mp
      (agrees.find?_ne_none (BoundClause.bound_of_uses firstChecked uses))
    exact ⟨meaning, found, once name meaning found⟩
  · intro entity content live
    refine ((effect_clause first run).frame entity content live).imp_right ?_
    rintro ⟨name, meaning, uses, found, acts⟩
    exact ⟨name, meaning, uses, found, once name meaning found, acts⟩

/-- Another variable selects all nodes, and the deletion reaches the merged one only. -/
theorem binds_unbound_of_prepare_other :
    let statement : Statement := { text := "MERGE (a:T {k: 1}) MATCH (b) DETACH DELETE a" }
    let keyed : Properties := OrderedMap.ofList [("k", .int 1)]
    let before : List BoundClause :=
      [.node .merge ⟨some "a", some "T", keyed⟩,
        .select [⟨some "b", none, OrderedMap.empty⟩]]
    let deleting := BoundClause.delete ["a"] true
    let prepared : BoundStatement := ⟨statement.text, before ++ [deleting]⟩
    let store := (Store.empty.createNode "U" OrderedMap.empty).2
    let start : Execution := { text := statement.text, store }
    statement.prepare = .ok prepared ∧ prepared.selectsUnbound "a" = true ∧
    ∃ run, through before start = some run ∧
      run.meanings.find? "a" = some (.nodes [1]) ∧
      run.meanings.find? "b" = some (.nodes [0, 1]) ∧
      FirstBound start "a" (.nodes [1]) before run := by
  intro statement keyed before deleting prepared store start
  have states : (through before start).map
      (fun run => (run.meanings.find? "a", run.meanings.find? "b")) =
        some (some (.nodes [1]), some (.nodes [0, 1])) := by
    decide +kernel +revert
  have unbound : prepared.selectsUnbound "a" = true := rfl
  have passed : statement.prepare = .ok prepared := by
    unfold Statement.prepare Clause.ofText
    simp only [statement, String.reduceToList]
    rfl
  obtain ⟨run, ran, same⟩ := Option.map_eq_some_iff.mp states
  obtain ⟨found, other⟩ := Prod.mk.inj same
  have split : prepared.clauses = before ++ deleting :: [] := rfl
  obtain ⟨meaning, denoted, bound⟩ :=
    (binds_unbound_of_prepare passed split ran).2.1 "a" List.mem_cons_self
  obtain rfl : meaning = .nodes [1] := Option.some.inj (denoted.symm.trans found)
  exact ⟨passed, unbound, run, ran, found, other, bound unbound⟩

/-- A selecting clause binds a bound variable again, and the deletion then takes a node that its
first binding did not denote. -/
theorem rebinds_selected :
    let statement : Statement := { text := "MERGE (a:T {k: 1}) MATCH (a) DETACH DELETE a" }
    let keyed : Properties := OrderedMap.ofList [("k", .int 1)]
    let merging := BoundClause.node .merge ⟨some "a", some "T", keyed⟩
    let selecting := BoundClause.select [⟨some "a", none, OrderedMap.empty⟩]
    let prepared : BoundStatement :=
      ⟨statement.text, [merging, selecting, .delete ["a"] true]⟩
    let store := (Store.empty.createNode "U" OrderedMap.empty).2
    let start : Execution := { text := statement.text, store }
    statement.prepare = .ok prepared ∧
    (through [merging] start).map (fun run => (run.meanings.find? "a", run.store.node? 0)) =
      some (some (.nodes [1]), some ⟨"U", OrderedMap.empty⟩) ∧
    (through [merging, selecting] start).map (fun run =>
      (run.meanings.find? "a", run.store.node? 0)) =
        some (some (.nodes [0, 1]), some ⟨"U", OrderedMap.empty⟩) ∧
    (prepared.run store).1 = .ok { nodes := 1, deleted := 2 } ∧
    (prepared.run store).2.node? 0 = none := by
  intro statement keyed merging selecting prepared store start
  refine ⟨?_, ?_, ?_, rfl, ?_⟩
  · unfold Statement.prepare Clause.ofText
    simp only [statement, String.reduceToList]
    rfl
  all_goals decide +kernel +revert

end Running

end CodeGraph
