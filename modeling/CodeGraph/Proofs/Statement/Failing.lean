import CodeGraph.Proofs.Statement.Keeping
import CodeGraph.Proofs.Statement.Lifetime

/-!
# Why a checked statement fails

A statement that has passed the check fails at one of its clauses, after the clauses before it
have gone on.  Either the clause takes a single node from a variable that a selecting clause was
the last to bind, and the selection has found several, or it deletes a node that still has
relationships.  No other failure is left to running.
-/

namespace CodeGraph

namespace BoundClause

/-- Does the clause take a single node from the variable? -/
def TakesNode (name : String) : BoundClause → Prop
  | node _ pattern => pattern.Refers name
  | path _ source _ target =>
      source.Refers name ∨ (target.Refers name ∧ ¬source.Binds name)
  | select _ | set _ _ | delete _ _ => False

/-- Of the clauses that bind the variable, is the last a selecting one? -/
def SelectedLast (before : List BoundClause) (name : String) : Prop :=
  ∃ early selecting late, before = early ++ selecting :: late ∧ selecting.Selects name ∧
    ∀ clause ∈ late, ¬clause.Binds name

theorem SelectedLast.append {before : List BoundClause} {name : String} {next : BoundClause}
    (selected : SelectedLast before name) (unbound : ¬next.Binds name) :
    SelectedLast (before ++ [next]) name := by
  obtain ⟨early, selecting, late, rfl, selects, kept⟩ := selected
  refine ⟨early, selecting, late ++ [next], by simp, selects, ?_⟩
  intro clause member
  rcases List.mem_append.mp member with earlier | last
  · exact kept clause earlier
  · rw [List.mem_singleton.mp last]
    exact unbound

end BoundClause

theorem Statement.text_of_prepare {statement : Statement} {prepared : BoundStatement}
    (passed : statement.prepare = .ok prepared) : prepared.text = statement.text := by
  obtain ⟨clauses, -, rest⟩ := exists_of_bind_eq_ok passed
  obtain ⟨bound, -, rest⟩ := exists_of_bind_eq_ok rest
  obtain ⟨sorts, -, same⟩ := exists_of_bind_eq_ok rest
  cases same
  rfl

namespace Running

variable {selected : String → Prop} {bound after sorts : VariableSorts}
  {run reached start : Execution} {text : String} {failure : Failure} {first : BoundClause}
  {list before : List BoundClause}

/-- Why a clause fails: what the run before it and the state in which it fails show. -/
inductive Cause (selected : String → Prop) (first : BoundClause) (run : Execution) :
    Failure → Execution → Prop where
  | severalNodes {name : String} {cells : List Nat} {reached : Execution} :
      first.TakesNode name → selected name → run.meanings.find? name = some (.nodes cells) →
      cells.length ≠ 1 →
      Cause selected first run (.unsupportedStatement run.text (.notASingleNode name)) reached
  | stillConnected {names : List String} {name : String} {cells : List Nat} {cell : Nat}
      {node : StoredNode} {reached : Execution} :
      first = .delete names false → name ∈ names →
      run.meanings.find? name = some (.nodes cells) → cell ∈ cells →
      reached.store.node? cell = some node → 0 < reached.store.degree cell →
      Cause selected first run (.unsupportedStatement "DELETE"
        (.stillConnected node.label (reached.store.degree cell))) reached

/-! ## The text of the statement -/

theorem preservesText_node (making : Making) (pattern : BoundNode) :
    Preserves (·.text = text) (node making pattern) :=
  .node (fun _ _ => id) (fun _ _ _ _ => id) (fun _ _ _ => id) making pattern

theorem preservesText_clause (first : BoundClause) : Preserves (·.text = text) (clause first) :=
  .clause (fun _ _ => id) (fun _ _ _ _ => id) (fun _ _ => id) (fun _ _ => id) first

theorem text_through (ran : through list start = some run) : run.text = start.text := by
  induction list generalizing start with
  | nil =>
      cases ran
      rfl
  | cons first rest induction =>
      obtain ⟨next, ended, later⟩ := through_cons.mp ran
      exact (induction later).trans ((preservesText_clause first start rfl).of_ok ended)

/-! ## The failures of a clause -/

theorem Ends.and {α : Type} {action : Running α} {good better : α → Execution → Prop}
    {bad worse : Failure → Execution → Prop} (left : Ends action run good bad)
    (right : Ends action run better worse) :
    Ends action run (fun value after => good value after ∧ better value after)
      (fun failure after => bad failure after ∧ worse failure after) := by
  unfold Ends at left right ⊢
  rcases ended : action.run.run run with ⟨outcome, after⟩
  rw [ended] at left right
  cases outcome <;> exact ⟨left, right⟩

theorem Agrees.imp {more : String → Prop} {meanings : OrderedMap Meaning}
    (agrees : Agrees selected bound meanings)
    (wider : ∀ name, bound.find? name ≠ none → selected name → more name) :
    Agrees more bound meanings := by
  intro name
  have denotes := agrees name
  have widens : bound.find? name ≠ none → selected name → more name := wider name
  generalize bound.find? name = sort, meanings.find? name = meaning at denotes widens
  cases denotes with
  | unbound => exact .unbound
  | node cell => exact .node cell
  | selection cells wasSelected => exact .selection cells (widens nofun wasSelected)
  | relationship cell => exact .relationship cell

theorem ends_node_cause (making : Making) {pattern : BoundNode}
    (checked : pattern.check text bound = .ok after) (agrees : Agrees selected bound run.meanings) :
    Ends (node making pattern) run (fun _ _ => True) fun failure reached => reached = run ∧
      ∃ name cells, pattern.Refers name ∧ selected name ∧
        run.meanings.find? name = some (.nodes cells) ∧ cells.length ≠ 1 ∧
        failure = .unsupportedStatement run.text (.notASingleNode name) := by
  unfold Ends
  rcases run_node_cases making checked agrees with
    ⟨cell, ended, -⟩ | ⟨name, cells, named, unlabelled, wasSelected, found, several, ended⟩ |
      ⟨label, labelled, ended, -⟩
  · rw [ended]
    trivial
  · rw [ended]
    exact ⟨rfl, name, cells, ⟨named, unlabelled⟩, wasSelected, found, several, rfl⟩
  · rw [ended, makeNode, labelled]
    cases pattern.name <;> trivial

theorem ends_path_cause (making : Making) {source target : BoundNode} {relation : BoundRelation}
    (checked : (BoundClause.path making source relation target).check text bound = .ok after)
    (agrees : Agrees selected bound run.meanings) :
    Ends (path making source relation target) run (fun _ _ => True)
      (Cause selected (.path making source relation target) run) := by
  obtain ⟨afterSource, sourceChecked, rest⟩ := exists_of_bind_eq_ok checked
  obtain ⟨afterTarget, targetChecked, -⟩ := exists_of_bind_eq_ok rest
  -- a variable that the source binds denotes a single node, whatever has been selected
  have kept : Agrees (fun name => selected name ∧ ¬source.Binds name) bound run.meanings := by
    refine agrees.imp ?_
    intro name wasBound wasSelected
    exact ⟨wasSelected, fun binds => wasBound (BoundNode.sorts_of_binds sourceChecked binds).1⟩
  have first : Ends (node making source) run
      (fun _ between =>
        Agrees (fun name => selected name ∧ ¬source.Binds name) afterSource between.meanings ∧
          Made source.Binds run between ∧ between.text = run.text)
      (Cause selected (.path making source relation target) run) := by
    have made : EndsIn (node making source) run (Made source.Binds run) :=
      (Made.refl run).node making fun _ => id
    have sorted : Ends (node making source) run _ (LateFailure _ True) :=
      ends_node making sourceChecked kept
    have ends := sorted.and ((ends_node_cause making sourceChecked agrees).and
      (made.and (preservesText_node making source run rfl)))
    refine ends.imp (fun _ _ both => ⟨both.1, both.2.2.1, both.2.2.2⟩) ?_
    rintro failure reached ⟨-, ⟨-, name, cells, refers, wasSelected, found, several, rfl⟩, -⟩
    exact .severalNodes (.inl refers) wasSelected found several
  refine first.bind ?_
  rintro start between ⟨agreesBetween, made, sameText⟩
  have second : Ends (node making target) between (fun _ _ => True)
      (Cause selected (.path making source relation target) run) := by
    refine (ends_node_cause making targetChecked agreesBetween).imp (fun _ _ => id) ?_
    rintro failure reached ⟨-, name, cells, refers, ⟨wasSelected, elsewhere⟩, found, several, rfl⟩
    have same : between.meanings.find? name = run.meanings.find? name :=
      (made.meanings name).resolve_right fun bound => elsewhere bound.1
    rw [sameText]
    exact .severalNodes (.inr ⟨refers, elsewhere⟩) wasSelected (same ▸ found) several
  refine second.bind ?_
  intro finish reached _
  cases relation.name <;> trivial

theorem ends_clause_cause (checked : first.check text bound = .ok after)
    (agrees : Agrees selected bound run.meanings) :
    Ends (clause first) run (fun _ _ => True) (Cause selected first run) := by
  have goesOn : ∀ {action : Running Unit},
      Ends action run (fun _ _ => True) (Cause selected first run) →
      Ends (do action; return true) run (fun _ _ => True) (Cause selected first run) :=
    fun ends => Ends.bind ends fun _ _ => id
  cases first with
  | node making pattern =>
      have ends : Ends (node making pattern) run (fun _ _ => True)
          (Cause selected (.node making pattern) run) := by
        refine (ends_node_cause making checked agrees).imp (fun _ _ => id) ?_
        rintro failure reached ⟨-, name, cells, refers, wasSelected, found, several, rfl⟩
        exact .severalNodes refers wasSelected found several
      exact ends.bind fun _ _ => id
  | path making source relation target => exact goesOn (ends_path_cause making checked agrees)
  | select patterns => exact (ends_select_made patterns run _).mono fun _ _ _ => trivial
  | set name properties =>
      have nothing := agrees.find?_ne_none (BoundClause.bound_of_uses checked rfl)
      have ends : Ends (set name properties) run (fun _ _ => True)
          (Cause selected (.set name properties) run) := by
        refine Ends.bind (ends_get run) ?_
        rintro _ run ⟨rfl, rfl⟩
        cases found : run.meanings.find? name with
        | none => exact absurd found nothing
        | some meaning => cases meaning <;> trivial
      exact goesOn ends
  | delete names detach =>
      have deletes : ∀ name ∈ names, ∀ cells, run.meanings.find? name = some (.nodes cells) →
          ∀ between, Ends (deleteNodes detach cells) between
            (fun _ reached => reached.meanings = between.meanings)
            (Cause selected (.delete names detach) run) := by
        intro name member cells found between
        refine (ends_deleteNodes cells).imp (fun _ _ => id) ?_
        rintro failure reached ⟨rfl, cell, denoted, node, live, connected, rfl⟩
        exact .stillConnected rfl member found denoted live connected
      exact goesOn ((ends_delete deletes checked agrees).mono fun _ _ _ => trivial)

/-! ## The clause that fails -/

/-- A variable denotes a single node unless the last clause that has bound it is a selecting
one. -/
theorem agrees_selectedLast (ran : through list start = some run)
    (checked : list.foldlM (BoundClause.check text) bound = .ok sorts)
    (agrees : Agrees (BoundClause.SelectedLast before) bound start.meanings) :
    Agrees (BoundClause.SelectedLast (before ++ list)) sorts run.meanings := by
  induction list generalizing start bound before with
  | nil =>
      cases ran
      cases checked
      rwa [List.append_nil]
  | cons first rest induction =>
      rw [List.foldlM_cons] at checked
      obtain ⟨between, firstChecked, restChecked⟩ := exists_of_bind_eq_ok checked
      obtain ⟨next, ended, later⟩ := through_cons.mp ran
      have selects : ∀ name, first.Selects name →
          BoundClause.SelectedLast (before ++ [first]) name :=
        fun name selects => ⟨before, first, [], rfl, selects, by simp⟩
      have widened : Agrees (BoundClause.SelectedLast (before ++ [first])) bound
          start.meanings := by
        refine agrees.imp ?_
        intro name wasBound selected
        by_cases binds : first.Binds name
        · by_cases makes : first.Makes
          · exact absurd (BoundClause.sorts_of_binds firstChecked makes binds).1 wasBound
          · cases first with
            | node making pattern => exact absurd trivial makes
            | path making source relation target => exact absurd trivial makes
            | select patterns => exact selects name binds
            | set changed properties => cases binds
            | delete names detach => cases binds
        · exact selected.append binds
      have ends : Ends (clause first) start
          (fun goesOn reached => goesOn = true →
            Agrees (BoundClause.SelectedLast (before ++ [first])) between reached.meanings)
          (LateFailure (BoundClause.SelectedLast (before ++ [first])) True) :=
        ends_clause selects (fun _ => trivial) firstChecked widened
      have joined := induction later restChecked (ends.of_ok ended rfl)
      rwa [List.append_assoc] at joined

/-- A run that fails stops at a clause, after the clauses before it have gone on. -/
theorem exists_cut_of_error (failed : (clauses list).run.run start = (.error failure, reached)) :
    ∃ before first rest run, list = before ++ first :: rest ∧
      through before start = some run ∧
      (clause first).run.run run = (.error failure, reached) := by
  induction list generalizing start with
  | nil => cases failed
  | cons first rest induction =>
      rw [clauses, run_bind] at failed
      rcases ended : (clause first).run.run start with ⟨outcome, next⟩
      rw [ended] at failed
      cases outcome with
      | error early =>
          cases failed
          exact ⟨[], first, rest, start, rfl, rfl, ended⟩
      | ok goesOn =>
          cases goesOn with
          | false => cases failed
          | true =>
              obtain ⟨before, failing, later, run, rfl, ran, stopped⟩ := induction failed
              exact ⟨first :: before, failing, later, run, rfl,
                through_cons.mpr ⟨next, ended, ran⟩, stopped⟩

/-- A prepared statement fails only because a clause takes a single node from a variable that
was last bound by a selection of several nodes, or because a plain deletion meets a node that
still has relationships.  If it is not fallible, it succeeds on every store. -/
theorem cause_of_prepare {statement : Statement} {prepared : BoundStatement}
    (passed : statement.prepare = .ok prepared) (store : Store) :
    (∀ failure, (prepared.run store).1 = .error failure →
      ∃ before first rest run reached, prepared.clauses = before ++ first :: rest ∧
        through before { text := prepared.text, store } = some run ∧
        (clause first).run.run run = (.error failure, reached) ∧
        (prepared.run store).2 = reached.store ∧ run.text = statement.text ∧
        Cause (BoundClause.SelectedLast before) first run failure reached) ∧
    (prepared.isFallible = false → ∃ counts, (prepared.run store).1 = .ok counts) := by
  obtain ⟨sorts, checked⟩ := Statement.check_of_prepare passed
  refine ⟨?_, fun safe => BoundStatement.run_eq_ok_of_not_isFallible checked safe store⟩
  intro failure failed
  rcases ended : (clauses prepared.clauses).run.run { text := prepared.text, store } with
    ⟨outcome, reached⟩
  have ran : prepared.run store = (outcome.map fun _ => reached.counts, reached.store) := by
    rw [BoundStatement.run, ended]
  rw [ran] at failed ⊢
  cases outcome with
  | ok value => cases failed
  | error late =>
      cases failed
      obtain ⟨before, first, rest, run, split, reaches, stopped⟩ := exists_cut_of_error ended
      rw [BoundStatement.check, split, List.foldlM_append] at checked
      obtain ⟨between, beforeChecked, others⟩ := exists_of_bind_eq_ok checked
      rw [List.foldlM_cons] at others
      obtain ⟨after, firstChecked, -⟩ := exists_of_bind_eq_ok others
      have agrees : Agrees (BoundClause.SelectedLast ([] ++ before)) between run.meanings :=
        agrees_selectedLast reaches beforeChecked Agrees.empty
      rw [List.nil_append] at agrees
      have cause := ends_clause_cause firstChecked agrees
      unfold Ends at cause
      rw [stopped] at cause
      exact ⟨before, first, rest, run, reached, split, reaches, stopped, rfl,
        (text_through reaches).trans (Statement.text_of_prepare passed), cause⟩

/-- The selection finds two nodes, of which a path is to start at one. -/
theorem cause_of_prepare_several :
    let statement : Statement := { text := "MATCH (n:T) MERGE (n)-[:R]->(m:T)" }
    let typed (name : String) : BoundNode := ⟨some name, some "T", OrderedMap.empty⟩
    let selecting := BoundClause.select [typed "n"]
    let connecting := BoundClause.path .merge ⟨some "n", none, OrderedMap.empty⟩
      ⟨none, "R", OrderedMap.empty⟩ (typed "m")
    let prepared : BoundStatement := ⟨statement.text, [selecting, connecting]⟩
    let once := (Store.empty.createNode "T" OrderedMap.empty).2
    let twice := (once.createNode "T" OrderedMap.empty).2
    statement.prepare = .ok prepared ∧
    (prepared.run twice).1 =
      .error (.unsupportedStatement statement.text (.notASingleNode "n")) ∧
    ∃ before first rest, ∃ (run : Execution) (cells : List Nat),
      prepared.clauses = before ++ first :: rest ∧ first.TakesNode "n" ∧
      BoundClause.SelectedLast before "n" ∧
      run.meanings.find? "n" = some (.nodes cells) ∧ cells.length ≠ 1 := by
  intro statement typed selecting connecting prepared once twice
  have passed : statement.prepare = .ok prepared := by
    unfold Statement.prepare Clause.ofText
    simp only [statement, String.reduceToList]
    rfl
  have failed : (prepared.run twice).1 =
      .error (.unsupportedStatement statement.text (.notASingleNode "n")) := rfl
  obtain ⟨before, first, rest, run, reached, split, -, -, -, -, cause⟩ :=
    (cause_of_prepare passed twice).1 _ failed
  refine ⟨passed, failed, before, first, rest, run, ?_⟩
  generalize same : Failure.unsupportedStatement statement.text (.notASingleNode "n") = failure
    at cause
  cases cause with
  | severalNodes takes selected found several =>
      cases (Failure.unsupportedStatement.inj same).2
      exact ⟨_, split, takes, selected, found, several⟩
  | stillConnected => cases (Failure.unsupportedStatement.inj same).2

end Running

end CodeGraph
