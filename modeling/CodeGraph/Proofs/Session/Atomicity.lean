import CodeGraph.Proofs.Statement.Checked
import CodeGraph.Session.Embedded

/-!
# Batches as a whole

A batch that fails leaves its session as it was.  Only a batch with a statement that may
fail part-way runs on a copy; the statements of any other batch have passed the check,
which rules out every failure that running them could still meet.
-/

namespace CodeGraph

theorem Statement.check_of_prepare {statement : Statement} {prepared : BoundStatement}
    (passed : statement.prepare = .ok prepared) : ∃ sorts, prepared.check = .ok sorts := by
  obtain ⟨clauses, -, rest⟩ := exists_of_bind_eq_ok passed
  obtain ⟨bound, -, rest⟩ := exists_of_bind_eq_ok rest
  obtain ⟨sorts, checked, same⟩ := exists_of_bind_eq_ok rest
  cases same
  exact ⟨sorts, checked⟩

theorem Statement.check_of_mapM_prepare {batch : List Statement}
    {prepared : List BoundStatement} (passed : batch.mapM Statement.prepare = .ok prepared) :
    ∀ statement ∈ prepared, ∃ sorts, statement.check = .ok sorts := by
  induction batch generalizing prepared with
  | nil =>
      cases passed
      simp
  | cons first batch induction =>
      rw [List.mapM_cons] at passed
      obtain ⟨head, headPassed, rest⟩ := exists_of_bind_eq_ok passed
      obtain ⟨tail, tailPassed, same⟩ := exists_of_bind_eq_ok rest
      cases same
      intro statement member
      rcases List.mem_cons.mp member with here | later
      · exact here ▸ check_of_prepare headPassed
      · exact induction tailPassed statement later

namespace EmbeddedSession

/-- Checked statements of which none may fail part-way all succeed. -/
theorem runAll_eq_ok {statements : List BoundStatement}
    (checked : ∀ statement ∈ statements, ∃ sorts, statement.check = .ok sorts)
    (safe : ∀ statement ∈ statements, statement.isFallible = false) (store : Store) :
    (runAll statements store).1 = .ok () := by
  induction statements generalizing store with
  | nil => rfl
  | cons first rest induction =>
      obtain ⟨sorts, firstChecked⟩ := checked first List.mem_cons_self
      obtain ⟨counts, succeeded⟩ := BoundStatement.run_eq_ok_of_not_isFallible firstChecked
        (safe first List.mem_cons_self) store
      rw [runAll]
      rcases ended : first.run store with ⟨outcome, reached⟩
      rw [ended] at succeeded
      cases succeeded
      exact induction
        (fun other member => checked other (List.mem_cons_of_mem first member))
        (fun other member => safe other (List.mem_cons_of_mem first member)) reached

theorem runBatch_of_isFallible {statements : List BoundStatement}
    (fallible : statements.any (·.isFallible) = true) (store : Store) :
    runBatch statements store =
      match runAll statements store with
      | (.ok (), reached) => (.ok (), reached)
      | (.error failure, _) => (.error failure, store) := by
  unfold runBatch
  rcases runAll statements store with ⟨outcome, reached⟩
  dsimp only
  rw [if_pos fallible]
  cases outcome <;> rfl

theorem runBatch_of_not_isFallible {statements : List BoundStatement}
    (safe : statements.any (·.isFallible) = false) (store : Store) :
    runBatch statements store = runAll statements store := by
  unfold runBatch
  rcases runAll statements store with ⟨outcome, reached⟩
  simp [safe]

theorem runBatch_of_error {statements : List BoundStatement} {store : Store}
    {failure : Failure}
    (checked : ∀ statement ∈ statements, ∃ sorts, statement.check = .ok sorts)
    (failed : (runBatch statements store).1 = .error failure) :
    (runBatch statements store).2 = store := by
  cases fallible : statements.any (·.isFallible) with
  | true =>
      rw [runBatch_of_isFallible fallible] at failed ⊢
      rcases ended : runAll statements store with ⟨outcome, reached⟩
      rw [ended] at failed
      cases outcome with
      | ok done => cases failed
      | error early => rfl
  | false =>
      have safe : ∀ statement ∈ statements, statement.isFallible = false := by
        simpa using fallible
      rw [runBatch_of_not_isFallible fallible, runAll_eq_ok checked safe store] at failed
      cases failed

theorem execute_of_prepared {session : EmbeddedSession} {batch : List Statement}
    {statements : List BoundStatement} (ready : session.state = .ready)
    (prepared : batch.mapM Statement.prepare = .ok statements) :
    session.execute batch =
      ((runBatch statements session.store).1,
        { session with store := (runBatch statements session.store).2 }) := by
  unfold execute
  rw [ready, prepared]
  rfl

/-- A failing batch leaves the session, and with it the whole store, as it was. -/
theorem execute_of_error {session : EmbeddedSession} {batch : List Statement}
    {failure : Failure} (failed : (session.execute batch).1 = .error failure) :
    (session.execute batch).2 = session := by
  by_cases ready : session.state = .ready
  · cases prepared : batch.mapM Statement.prepare with
    | error failure =>
        unfold execute
        rw [ready, prepared]
        rfl
    | ok statements =>
        rw [execute_of_prepared ready prepared] at failed ⊢
        have kept := runBatch_of_error (Statement.check_of_mapM_prepare prepared) failed
        dsimp only
        rw [kept]
  · unfold execute SessionState.requireReady
    rw [if_neg ready]

/-- The first statement creates two connected nodes, which the second one may not delete:
neither node is there afterwards. -/
theorem execute_of_error_connected :
    let session : EmbeddedSession := { path := "store", state := .ready }
    let batch : List Statement :=
      [{ text := "CREATE (a:T)-[:R]->(b:T)" }, { text := "MATCH (n:T) DELETE n" }]
    (session.execute batch).1 =
        .error (.unsupportedStatement "DELETE" (.stillConnected "T" 1)) ∧
      (session.execute batch).2 = session := by
  intro session batch
  let typed (name : String) : BoundNode := ⟨some name, some "T", OrderedMap.empty⟩
  let connecting : BoundStatement :=
    ⟨"CREATE (a:T)-[:R]->(b:T)",
      [.path .create (typed "a") ⟨none, "R", OrderedMap.empty⟩ (typed "b")]⟩
  let deleting : BoundStatement :=
    ⟨"MATCH (n:T) DELETE n", [.select [typed "n"], .delete ["n"] false]⟩
  have first : Statement.prepare { text := "CREATE (a:T)-[:R]->(b:T)" } = .ok connecting := by
    unfold Statement.prepare Clause.ofText
    simp only [String.reduceToList]
    rfl
  have second : Statement.prepare { text := "MATCH (n:T) DELETE n" } = .ok deleting := by
    unfold Statement.prepare Clause.ofText
    simp only [String.reduceToList]
    rfl
  have prepared : batch.mapM Statement.prepare = .ok [connecting, deleting] := by
    rw [List.mapM_cons, List.mapM_cons, first, second]
    rfl
  have failed : (session.execute batch).1 =
      .error (.unsupportedStatement "DELETE" (.stillConnected "T" 1)) := by
    rw [execute_of_prepared rfl prepared]
    rfl
  exact ⟨failed, execute_of_error failed⟩

end EmbeddedSession

end CodeGraph
