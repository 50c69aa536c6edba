import CodeGraph.Proofs.OrderedMap
import CodeGraph.Proofs.Store.Cells
import CodeGraph.Proofs.Statement.Running

/-!
# What checked statements can fail of

The check of a statement follows its clauses with the sort of each variable, and running
it follows them with the meaning.  The two agree at every point, so that running a checked
statement fails only of what a selecting clause has found, or of a plain deletion of a
node that still has relationships.
-/

namespace CodeGraph

/-- Does a selecting clause bind the variable? -/
def BoundClause.Selects (name : String) : BoundClause → Prop
  | select patterns => ∃ pattern ∈ patterns, pattern.name = some name
  | _ => False

/-- Is the clause a deletion that leaves relationships alone? -/
def BoundClause.DeletesPlainly : BoundClause → Prop
  | delete _ detach => detach = false
  | _ => False

namespace Running

/-- What a variable denotes is of its sort, and is a single node unless a selecting
clause has bound the variable. -/
inductive Denotes (selected : Prop) : Option VariableSort → Option Meaning → Prop where
  | unbound : Denotes selected none none
  | node (cell : Nat) : Denotes selected (some .nodes) (some (.nodes [cell]))
  | selection (cells : List Nat) : selected → Denotes selected (some .nodes) (some (.nodes cells))
  | relationship (cell : Nat) : Denotes selected (some .relationship) (some (.edge cell))

/-- The sorts of the variables that the check has followed fit their meanings. -/
def Agrees (selected : String → Prop) (bound : VariableSorts)
    (meanings : OrderedMap Meaning) : Prop :=
  ∀ name, Denotes (selected name) (bound.find? name) (meanings.find? name)

/-- The failures that the check leaves to running, with the state in which they come. -/
inductive LateFailure (selected : String → Prop) (plain : Prop) : Failure → Execution → Prop
    where
  | notASingleNode {text name : String} {cells : List Nat} {run : Execution} :
      selected name → run.meanings.find? name = some (.nodes cells) → cells.length ≠ 1 →
      LateFailure selected plain (.unsupportedStatement text (.notASingleNode name)) run
  | stillConnected {cell : Nat} {node : StoredNode} {run : Execution} :
      plain → run.store.node? cell = some node → 0 < run.store.degree cell →
      LateFailure selected plain
        (.unsupportedStatement "DELETE" (.stillConnected node.label (run.store.degree cell)))
        run

namespace Agrees

variable {selected : String → Prop} {bound : VariableSorts} {meanings : OrderedMap Meaning}

theorem empty : Agrees selected OrderedMap.empty OrderedMap.empty :=
  fun _ => .unbound

theorem insert (agrees : Agrees selected bound meanings) {name : String}
    {sort : VariableSort} {meaning : Meaning}
    (denotes : Denotes (selected name) (some sort) (some meaning)) :
    Agrees selected (bound.insert name sort) (meanings.insert name meaning) := by
  intro other
  rw [OrderedMap.find?_insert, OrderedMap.find?_insert]
  by_cases same : name = other
  · rw [if_pos same, if_pos same]
    exact same ▸ denotes
  · rw [if_neg same, if_neg same]
    exact agrees other

theorem erase (agrees : Agrees selected bound meanings) (name : String) :
    Agrees selected (bound.erase name) (meanings.erase name) := by
  intro other
  rw [OrderedMap.find?_erase, OrderedMap.find?_erase]
  by_cases same : name = other
  · rw [if_pos same, if_pos same]
    exact .unbound
  · rw [if_neg same, if_neg same]
    exact agrees other

theorem find?_eq_none (agrees : Agrees selected bound meanings) {name : String}
    (unbound : bound.find? name = none) : meanings.find? name = none := by
  have denotes := agrees name
  rw [unbound] at denotes
  cases found : meanings.find? name with
  | none => rfl
  | some meaning =>
      rw [found] at denotes
      cases denotes

theorem find?_ne_none (agrees : Agrees selected bound meanings) {name : String}
    (found : (bound.find? name).isSome = true) : meanings.find? name ≠ none := by
  intro missing
  have denotes := agrees name
  rw [missing] at denotes
  cases sort : bound.find? name with
  | none =>
      rw [sort] at found
      cases found
  | some _ =>
      rw [sort] at denotes
      cases denotes

end Agrees

end Running

/-! ## Nodes and paths -/

/-- A node pattern that passes the check either is a bound variable that stands alone or
has a label and no bound variable. -/
theorem BoundNode.check_eq_ok {text : String} {node : BoundNode} {bound after : VariableSorts}
    (checked : node.check text bound = .ok after) :
    (∃ name, node.name = some name ∧ bound.find? name = some .nodes ∧
        node.label = none ∧ node.properties.entries = [] ∧ after = bound) ∨
      (∃ label, node.label = some label ∧ node.name.bind bound.find? = none ∧
        after = (match node.name with
          | some name => bound.insert name .nodes
          | none => bound)) := by
  unfold BoundNode.check at checked
  have labelled : ∀ named : VariableSorts,
      (if node.label.isNone then Binding.fault text .missingLabel else .ok named) =
        (.ok after : Except Failure VariableSorts) →
      ∃ label, node.label = some label ∧ after = named := by
    intro named passed
    cases found : node.label with
    | none => simp [found, Binding.fault] at passed
    | some label => simpa [found, eq_comm] using passed
  cases named : node.name with
  | none =>
      rw [named] at checked
      obtain ⟨label, found, same⟩ := labelled bound checked
      exact .inr ⟨label, found, rfl, same⟩
  | some name =>
      rw [named] at checked
      cases sort : bound.find? name with
      | none =>
          simp only [Option.bind_some, sort] at checked
          obtain ⟨label, found, same⟩ := labelled _ checked
          exact .inr ⟨label, found, sort, same⟩
      | some sort' =>
          cases sort' with
          | relationship => simp [sort, Binding.fault] at checked
          | nodes =>
              simp only [Option.bind_some, sort] at checked
              split at checked
              next => cases checked
              next alone =>
                have bare : node.label = none ∧ node.properties.entries = [] := by
                  simpa using alone
                cases checked
                exact .inl ⟨name, rfl, sort, bare.1, bare.2, rfl⟩

namespace Running

variable {selected : String → Prop} {plain : Prop} {bound after : VariableSorts}
  {run : Execution} {text : String}

theorem ends_makeNode (making : Making) {node : BoundNode} {label : String}
    (labelled : node.label = some label)
    (agrees : Agrees selected bound run.meanings)
    (follows : after = (match node.name with
      | some name => bound.insert name .nodes
      | none => bound)) :
    Ends (makeNode making node) run (fun _ reached => Agrees selected after reached.meanings)
      (LateFailure selected plain) := by
  unfold makeNode
  rw [labelled]
  cases named : node.name with
  | none =>
      rw [named] at follows
      subst follows
      exact agrees
  | some name =>
      rw [named] at follows
      subst follows
      exact agrees.insert (.node _)

/-- A checked pattern gives the single node of its variable, fails of what a selecting clause
has found for the variable, or has a node made for it. -/
theorem run_node_cases (making : Making) {pattern : BoundNode}
    (checked : pattern.check text bound = .ok after)
    (agrees : Agrees selected bound run.meanings) :
    (∃ cell, (node making pattern).run.run run = (.ok cell, run) ∧ after = bound) ∨
      (∃ name cells, pattern.name = some name ∧ pattern.label = none ∧ selected name ∧
        run.meanings.find? name = some (.nodes cells) ∧ cells.length ≠ 1 ∧
        (node making pattern).run.run run =
          (.error (.unsupportedStatement run.text (.notASingleNode name)), run)) ∨
      (∃ label, pattern.label = some label ∧
        (node making pattern).run.run run = (makeNode making pattern).run.run run ∧
        after = (match pattern.name with
          | some name => bound.insert name .nodes
          | none => bound)) := by
  rcases BoundNode.check_eq_ok checked with
    ⟨name, named, sort, unlabelled, bare, same⟩ | ⟨label, labelled, unbound, follows⟩
  · have denotes := agrees name
    rw [sort] at denotes
    generalize found : run.meanings.find? name = meaning at denotes
    cases denotes with
    | node cell => exact .inl ⟨cell, run_node_of_single making named bare found, same⟩
    | selection cells wasSelected =>
        by_cases single : cells.length = 1
        · obtain ⟨cell, rfl⟩ := List.length_eq_one_iff.mp single
          exact .inl ⟨cell, run_node_of_single making named bare found, same⟩
        · exact .inr (.inl ⟨name, cells, named, unlabelled, wasSelected, found, single,
            run_node_of_several making named found single⟩)
  · have unboundHere : pattern.name.bind run.meanings.find? = none := by
      cases named : pattern.name with
      | none => rfl
      | some name =>
          rw [named] at unbound
          exact agrees.find?_eq_none unbound
    exact .inr (.inr ⟨label, labelled, run_node_of_unbound making unboundHere, follows⟩)

theorem ends_node (making : Making) {pattern : BoundNode}
    (checked : pattern.check text bound = .ok after)
    (agrees : Agrees selected bound run.meanings) :
    Ends (node making pattern) run (fun _ reached => Agrees selected after reached.meanings)
      (LateFailure selected plain) := by
  unfold Ends
  rcases run_node_cases making checked agrees with
    ⟨cell, ended, rfl⟩ | ⟨name, cells, -, -, wasSelected, found, several, ended⟩ |
      ⟨label, labelled, ended, follows⟩
  · rw [ended]
    exact agrees
  · rw [ended]
    exact .notASingleNode wasSelected found several
  · rw [ended]
    exact ends_makeNode making labelled agrees follows

/-! ## Other clauses -/

theorem ends_path (making : Making) {source target : BoundNode} {relation : BoundRelation}
    (checked : (BoundClause.path making source relation target).check text bound = .ok after)
    (agrees : Agrees selected bound run.meanings) :
    Ends (path making source relation target) run
      (fun _ reached => Agrees selected after reached.meanings)
      (LateFailure selected plain) := by
  obtain ⟨afterSource, sourceChecked, rest⟩ := exists_of_bind_eq_ok checked
  obtain ⟨afterTarget, targetChecked, related⟩ := exists_of_bind_eq_ok rest
  refine Ends.bind (ends_node making sourceChecked agrees) ?_
  intro start reached agreesSource
  refine Ends.bind (ends_node making targetChecked agreesSource) ?_
  intro finish reached agreesTarget
  cases named : relation.name with
  | none =>
      rw [named] at related
      cases related
      exact agreesTarget
  | some name =>
      rw [named] at related
      dsimp only at related
      split at related
      · cases related
      · cases related
        exact agreesTarget.insert (.relationship _)

theorem ends_select {patterns : List BoundNode}
    (named : ∀ pattern ∈ patterns, ∀ name, pattern.name = some name → selected name)
    (agrees : Agrees selected bound run.meanings) :
    Ends (select patterns) run
      (fun goesOn reached => goesOn = true →
        Agrees selected (BoundClause.afterSelect bound patterns) reached.meanings)
      (LateFailure selected plain) := by
  induction patterns generalizing bound run with
  | nil => exact fun _ => agrees
  | cons pattern patterns induction =>
      refine Ends.bind (ends_get run) ?_
      rintro _ run ⟨rfl, rfl⟩
      dsimp only
      split
      next => exact fun goesOn => nomatch goesOn
      next =>
        have laterNamed : ∀ pattern ∈ patterns, ∀ name,
            pattern.name = some name → selected name := by
          intro other member
          exact named other (List.mem_cons_of_mem pattern member)
        rw [BoundClause.afterSelect, List.foldl_cons]
        cases same : pattern.name with
        | none => exact induction laterNamed agrees
        | some name =>
            have wasSelected : selected name :=
              named pattern List.mem_cons_self name same
            have binds : ∀ cells, Ends (bindName (some name) (.nodes cells)) run
                (fun _ reached => Agrees selected (bound.insert name .nodes) reached.meanings)
                (LateFailure selected plain) :=
              fun cells => agrees.insert (.selection cells wasSelected)
            refine Ends.bind (binds _) ?_
            intro _ reached agreesName
            exact induction laterNamed agreesName

theorem ends_set {name : String} {properties : Properties}
    (checked : (BoundClause.set name properties).check text bound = .ok after)
    (agrees : Agrees selected bound run.meanings) :
    Ends (set name properties) run
      (fun _ reached => Agrees selected after reached.meanings)
      (LateFailure selected plain) := by
  simp only [BoundClause.check] at checked
  split at checked
  next => cases checked
  next sort sorted =>
    cases checked
    refine Ends.bind (ends_get run) ?_
    rintro _ run ⟨rfl, rfl⟩
    have denotes := agrees name
    rw [sorted] at denotes
    cases found : run.meanings.find? name with
    | none =>
        rw [found] at denotes
        cases denotes
    | some meaning =>
        cases meaning with
        | nodes cells => exact agrees
        | edge cell => exact agrees

/-- Deleting nodes leaves the variables alone, and fails only at one of the nodes. -/
theorem ends_deleteNodes {detach : Bool} (cells : List Nat) :
    Ends (deleteNodes detach cells) run (fun _ reached => reached.meanings = run.meanings)
      fun failure reached => detach = false ∧ ∃ cell ∈ cells, ∃ node,
        reached.store.node? cell = some node ∧ 0 < reached.store.degree cell ∧
        failure = .unsupportedStatement "DELETE"
          (.stillConnected node.label (reached.store.degree cell)) := by
  induction cells generalizing run with
  | nil => exact rfl
  | cons cell cells induction =>
      refine Ends.bind (ends_get run) ?_
      rintro _ run ⟨rfl, rfl⟩
      cases deleted : run.store.deleteNode cell detach with
      | error failure =>
          obtain ⟨plain, connected⟩ := Store.exists_of_deleteNode_eq_error deleted
          exact ⟨plain, cell, List.mem_cons_self, connected⟩
      | ok store =>
          let next : Execution := { run with store, counts := run.counts.add { deleted := 1 } }
          refine (@induction next).imp (fun _ _ => id) ?_
          rintro failure reached ⟨plain, other, member, connected⟩
          exact ⟨plain, other, List.mem_cons_of_mem cell member, connected⟩

/-- Deleting unbinds the variables, and fails only of what deleting the nodes fails of that
the variables denoted. -/
theorem ends_delete {detach : Bool} {names : List String} {bad : Failure → Execution → Prop}
    (deletes : ∀ name ∈ names, ∀ cells, run.meanings.find? name = some (.nodes cells) →
      ∀ between, Ends (deleteNodes detach cells) between
        (fun _ reached => reached.meanings = between.meanings) bad)
    (checked : BoundClause.checkDeleted text names bound = .ok after)
    (agrees : Agrees selected bound run.meanings) :
    Ends (delete detach names) run
      (fun _ reached => Agrees selected after reached.meanings) bad := by
  induction names generalizing bound run with
  | nil =>
      cases checked
      exact agrees
  | cons name names induction =>
      rw [BoundClause.checkDeleted] at checked
      split at checked
      next => cases checked
      next sort sorted =>
        obtain ⟨here, others⟩ := List.forall_mem_cons.mp deletes
        have denotes := agrees name
        rw [sorted] at denotes
        -- what is bound after the variable has been unbound was bound before
        have rest : ∀ later : Execution, later.meanings = run.meanings.erase name →
            Ends (delete detach names) later
              (fun _ reached => Agrees selected after reached.meanings) bad := by
          intro later same
          refine induction ?_ checked (same ▸ agrees.erase name)
          intro other member cells found
          rw [same, OrderedMap.find?_erase] at found
          split at found
          · cases found
          · exact others other member cells found
        refine Ends.bind (ends_get run) ?_
        rintro _ run ⟨rfl, rfl⟩
        have unbinds : Ends (modify fun run =>
              { run with meanings := run.meanings.erase name } : Running Unit) run
            (fun _ reached => reached.meanings = run.meanings.erase name) bad := rfl
        refine unbinds.bind ?_
        intro _ reached erased
        generalize run.meanings.find? name = meaning at denotes here
        have deletesNodes : ∀ cells, meaning = some (.nodes cells) →
            Ends (deleteNodes detach cells) reached
              (fun _ later => later.meanings = run.meanings.erase name) bad := by
          intro cells denoted
          exact (here cells denoted reached).mono fun _ _ same => same.trans erased
        cases denotes with
        | node cell => exact (deletesNodes [cell] rfl).bind fun _ later same => rest later same
        | selection cells =>
            exact (deletesNodes cells rfl).bind fun _ later same => rest later same
        | relationship cell => exact rest _ erased

/-! ## Whole statements -/

theorem ends_clause {first : BoundClause}
    (selects : ∀ name, first.Selects name → selected name)
    (deletes : first.DeletesPlainly → plain)
    (checked : first.check text bound = .ok after)
    (agrees : Agrees selected bound run.meanings) :
    Ends (clause first) run
      (fun goesOn reached => goesOn = true → Agrees selected after reached.meanings)
      (LateFailure selected plain) := by
  cases first with
  | node making pattern =>
      exact (ends_node making checked agrees).bind fun _ _ later _ => later
  | path making source relation target =>
      exact (ends_path making checked agrees).bind fun _ _ later _ => later
  | select patterns =>
      cases checked
      exact ends_select
        (fun pattern member name same => selects name ⟨pattern, member, same⟩) agrees
  | set name properties =>
      exact (ends_set checked agrees).bind fun _ _ later _ => later
  | delete names detach =>
      have deletesNodes : ∀ cells between, Ends (deleteNodes detach cells) between
          (fun _ reached => reached.meanings = between.meanings) (LateFailure selected plain) := by
        intro cells between
        refine (ends_deleteNodes cells).imp (fun _ _ => id) ?_
        rintro failure reached ⟨plainly, cell, -, node, live, connected, rfl⟩
        exact .stillConnected (deletes plainly) live connected
      have unbinds : Ends (delete detach names) run
          (fun _ reached => Agrees selected after reached.meanings) (LateFailure selected plain) :=
        ends_delete (fun _ _ cells _ => deletesNodes cells) checked agrees
      exact unbinds.bind fun _ _ later _ => later

theorem ends_clauses {list : List BoundClause}
    (selects : ∀ first ∈ list, ∀ name, first.Selects name → selected name)
    (deletes : ∀ first ∈ list, first.DeletesPlainly → plain)
    (checked : list.foldlM (BoundClause.check text) bound = .ok after)
    (agrees : Agrees selected bound run.meanings) :
    Ends (clauses list) run (fun _ _ => True) (LateFailure selected plain) := by
  induction list generalizing bound run with
  | nil => exact trivial
  | cons first rest induction =>
      rw [List.foldlM_cons] at checked
      obtain ⟨between, firstChecked, restChecked⟩ := exists_of_bind_eq_ok checked
      refine Ends.bind (ends_clause (selects first List.mem_cons_self)
        (deletes first List.mem_cons_self) firstChecked agrees) ?_
      intro goesOn reached later
      cases goesOn with
      | false => exact trivial
      | true =>
          exact induction
            (fun other member => selects other (List.mem_cons_of_mem first member))
            (fun other member => deletes other (List.mem_cons_of_mem first member))
            restChecked (later rfl)

end Running

namespace BoundStatement

/-- A checked statement fails only of what its selecting clauses found or of its plain
deletions. -/
theorem lateFailure_of_run {statement : BoundStatement} {sorts : VariableSorts}
    {store : Store} {failure : Failure} (checked : statement.check = .ok sorts)
    (failed : (statement.run store).1 = .error failure) :
    ∃ run, Running.LateFailure
      (fun name => ∃ clause ∈ statement.clauses, clause.Selects name)
      (∃ clause ∈ statement.clauses, clause.DeletesPlainly) failure run := by
  have ends : Running.Ends (Running.clauses statement.clauses)
      { text := statement.text, store } (fun _ _ => True)
      (Running.LateFailure
        (fun name => ∃ clause ∈ statement.clauses, clause.Selects name)
        (∃ clause ∈ statement.clauses, clause.DeletesPlainly)) :=
    Running.ends_clauses
      (fun first member name selects => ⟨first, member, selects⟩)
      (fun first member deletes => ⟨first, member, deletes⟩)
      checked Running.Agrees.empty
  unfold run at failed
  unfold Running.Ends at ends
  rcases ended : (Running.clauses statement.clauses).run.run
    { text := statement.text, store } with ⟨outcome, reached⟩
  rw [ended] at failed ends
  cases outcome with
  | ok value => cases failed
  | error late =>
      cases failed
      exact ⟨reached, ends⟩

/-- A checked statement that neither selects nor deletes plainly succeeds on every store. -/
theorem run_eq_ok_of_not_isFallible {statement : BoundStatement} {sorts : VariableSorts}
    (checked : statement.check = .ok sorts) (safe : statement.isFallible = false)
    (store : Store) : ∃ counts, (statement.run store).1 = .ok counts := by
  cases ended : (statement.run store).1 with
  | ok counts => exact ⟨counts, rfl⟩
  | error failure =>
      rw [isFallible, List.any_eq_false] at safe
      obtain ⟨run, late⟩ := lateFailure_of_run checked ended
      cases late with
      | notASingleNode selected =>
          obtain ⟨clause, member, selects⟩ := selected
          have infallible := safe clause member
          cases clause with
          | select => simp [BoundClause.isFallible] at infallible
          | _ => cases selects
      | stillConnected plain =>
          obtain ⟨clause, member, deletes⟩ := plain
          have infallible := safe clause member
          cases clause with
          | delete names detach =>
              cases deletes
              simp [BoundClause.isFallible] at infallible
          | _ => cases deletes

end BoundStatement

end CodeGraph
