import CodeGraph.Proofs.Loader.Acceptance
import CodeGraph.Proofs.Session.Atomicity
import CodeGraph.Proofs.Statement.OfFact
import CodeGraph.Session

/-!
# Loading facts into a store

Over a session with a store on a disk, a run writes the facts that the loader lets
through to the store, one after another, whatever the batches are.
-/

namespace CodeGraph

namespace EmbeddedSession

theorem runAll_bound (facts : List Fact) (store : Store) :
    runAll (facts.map Statement.bound) store = (.ok (), facts.foldl Store.write store) := by
  induction facts generalizing store with
  | nil => rfl
  | cons fact facts induction =>
      obtain ⟨counts, written⟩ := Statement.run_bound fact store
      rw [List.map_cons, runAll, written]
      exact induction (store.write fact)

theorem execute_ofFact {session : EmbeddedSession} (ready : session.state = .ready)
    (facts : List Fact) :
    session.execute (facts.map Statement.ofFact) =
      (.ok (), { session with store := facts.foldl Store.write session.store }) := by
  have safe : (facts.map Statement.bound).any (·.isFallible) = false := by
    rw [List.any_eq_false]
    intro statement member
    obtain ⟨fact, -, rfl⟩ := List.mem_map.mp member
    simp [Statement.isFallible_bound]
  rw [execute_of_prepared ready (Statement.mapM_prepare_ofFact facts),
    runBatch_of_not_isFallible safe, runAll_bound]

end EmbeddedSession

namespace Session

theorem execute_ofFact {session : EmbeddedSession} (ready : session.state = .ready)
    (facts : List Fact) :
    accessor.execute (facts.map Statement.ofFact) (.embedded session) =
      (.ok (), .embedded { session with store := facts.foldl Store.write session.store }) := by
  change ((session.execute (facts.map Statement.ofFact)).1,
    Session.embedded (session.execute (facts.map Statement.ofFact)).2) = _
  rw [EmbeddedSession.execute_ofFact ready]

/-- However the statements of facts are cut into batches, the facts are written in order. -/
theorem executeAll_ofFact {session : EmbeddedSession} (ready : session.state = .ready)
    {batches : List (List Statement)} {facts : List Fact}
    (cut : batches.flatten = facts.map Statement.ofFact) :
    accessor.executeAll batches (.embedded session) =
      (.ok (), .embedded { session with store := facts.foldl Store.write session.store }) := by
  induction batches generalizing session facts with
  | nil =>
      have nothing : facts = [] := by simpa using cut.symm
      subst facts
      rfl
  | cons batch batches induction =>
      rw [List.flatten_cons, eq_comm, List.map_eq_append_iff] at cut
      obtain ⟨first, rest, rfl, here, later⟩ := cut
      subst batch
      rw [Accessor.executeAll, execute_ofFact ready, List.foldl_append]
      exact induction
        (show EmbeddedSession.state { session with
          store := first.foldl Store.write session.store } = .ready from ready) later.symm

theorem load_eq_write {session : EmbeddedSession} (ready : session.state = .ready)
    (filter : Filter) (batchSize : Nat) (facts : List Fact) :
    ∃ stats, Loader.load accessor filter batchSize [] facts (.embedded session) =
      (.ok stats,
        .embedded
          { session with store := (filter.written facts).foldl Store.write session.store }) := by
  have cut := Writer.flatten_portions batchSize [] ((filter.written facts).map Statement.ofFact)
  have loaded := Loader.load_eq_executeAll accessor filter batchSize facts (.embedded session)
  rw [executeAll_ofFact ready cut] at loaded
  rcases ended : Loader.load accessor filter batchSize [] facts (.embedded session) with
    ⟨outcome, reached⟩
  rw [ended] at loaded
  cases outcome with
  | error failure => cases loaded
  | ok stats =>
      cases loaded
      exact ⟨stats, rfl⟩

end Session

end CodeGraph
