import CodeGraph.Proofs.Loader.Rerun
import CodeGraph.Proofs.Store.Isomorphism

/-!
# Clearing first

A run can delete every node before it takes in facts.  Whatever the store held before, and
wherever in it the keys were, the run then leaves the graph that the facts give on an empty
store, up to the numbers of cells.
-/

namespace CodeGraph

namespace Store

/-- Deleting a node with its relationships never fails, and no node comes instead. -/
theorem deleteNode_detach (store : Store) (cell : Nat) :
    ∃ after, store.deleteNode cell true = .ok after ∧
      ∀ other, other = cell ∨ store.node? other = none → after.node? other = none := by
  cases live : store.node? cell with
  | none =>
      refine ⟨store, ?_, ?_⟩
      · unfold deleteNode
        rw [live]
      · rintro other (here | gone)
        · rw [here, live]
        · exact gone
  | some node =>
      have deleted := deleteNode_of_node? true live
      rw [Bool.not_true, Bool.and_false, if_neg Bool.false_ne_true] at deleted
      refine ⟨_, deleted, fun other absent => ?_⟩
      rw [node?, Arena.get?_erase, nodes_isolate]
      split
      next => rfl
      next different => exact absent.resolve_left different

/-- In a sound store without nodes, nothing is found and nothing is there. -/
theorem Sound.layouts_of_no_nodes {store : Store} (sound : Sound store)
    (vacant : ∀ cell, store.node? cell = none) :
    store.nodeLayout = ⟨fun _ => none, fun _ => none⟩ ∧
      store.edgeLayout = ⟨fun _ => none, fun _ => none⟩ := by
  have noKey : ∀ key : String × String, store.index[key]? = none := by
    intro key
    cases found : store.index[key]? with
    | none => rfl
    | some cell =>
        obtain ⟨node, live, -⟩ := sound.indexed key cell found
        cases (vacant cell).symm.trans live
  have noEdge : ∀ cell, store.edges.get? cell = none := by
    intro cell
    cases found : store.edges.get? cell with
    | none => rfl
    | some edge =>
        have live := sound.sources cell edge found
        rw [vacant] at live
        cases live
  constructor
  · exact congr (congrArg Layout.mk (funext fun (key : NodeKey) => noKey key.names)) (funext vacant)
  · refine congr (congrArg Layout.mk (funext fun key => ?_)) (funext noEdge)
    unfold edgeCell?
    rw [noKey]
    rfl

/-- Writing the same facts to two stores without nodes gives isomorphic stores. -/
theorem Sound.isomorphic_foldl_write {left right : Store} (leftSound : Sound left)
    (rightSound : Sound right) (leftVacant : ∀ cell, left.node? cell = none)
    (rightVacant : ∀ cell, right.node? cell = none) {facts : List Fact}
    (plain : ∀ fact ∈ facts, keyProperty ∉ fact.attributes.keys) :
    Isomorphic (facts.foldl Store.write left) (facts.foldl Store.write right) := by
  obtain ⟨leftNodes, leftEdges⟩ := leftSound.layouts_of_no_nodes leftVacant
  obtain ⟨rightNodes, rightEdges⟩ := rightSound.layouts_of_no_nodes rightVacant
  obtain ⟨fromLeft, leftPicture⟩ := leftSound.develops_foldl_write plain
  obtain ⟨fromRight, rightPicture⟩ := rightSound.develops_foldl_write plain
  have fromSame : Develops left (facts.foldl Store.write right) := by
    refine ⟨?_, ?_⟩
    · rw [leftNodes, ← rightNodes]
      exact fromRight.nodes
    · rw [leftEdges, ← rightEdges]
      exact fromRight.edges
  have blank : left.picture = right.picture := by
    unfold picture
    rw [leftNodes, leftEdges, rightNodes, rightEdges]
  have same := leftPicture.trans ((congrArg (facts.foldl Picture.write) blank).trans
    rightPicture.symm)
  exact fromLeft.isomorphic fromSame leftSound.foldl_write rightSound.foldl_write same leftSound

end Store

/-! ## The statement that deletes every node -/

namespace Running

theorem run_deleteNodes_cons {detach : Bool} {cell : Nat} {run : Execution} {store : Store}
    (deleted : run.store.deleteNode cell detach = .ok store) (cells : List Nat) :
    (deleteNodes detach (cell :: cells)).run.run run =
      (deleteNodes detach cells).run.run
        { run with store, counts := run.counts.add { deleted := 1 } } := by
  rw [deleteNodes, run_bind, run_get]
  dsimp only
  rw [deleted]
  rfl

/-- Deleting nodes with their relationships succeeds and leaves none of them. -/
theorem run_deleteNodes_detach (cells : List Nat) (run : Execution)
    (sound : Store.Sound run.store) :
    ∃ after : Execution, (deleteNodes true cells).run.run run = (.ok (), after) ∧
      Store.Sound after.store ∧
      ∀ other, other ∈ cells ∨ run.store.node? other = none → after.store.node? other = none := by
  induction cells generalizing run with
  | nil => exact ⟨run, rfl, sound, fun other absent => absent.resolve_left List.not_mem_nil⟩
  | cons cell cells induction =>
      obtain ⟨store, deleted, gone⟩ := run.store.deleteNode_detach cell
      let between : Execution :=
        { run with store, counts := run.counts.add { deleted := 1 } }
      have step : (deleteNodes true (cell :: cells)).run.run run =
          (deleteNodes true cells).run.run between := run_deleteNodes_cons deleted cells
      have betweenSound : Store.Sound between.store := sound.deleteNode deleted
      obtain ⟨after, ran, afterSound, left⟩ := induction between betweenSound
      refine ⟨after, step.trans ran, afterSound, fun other absent => left other ?_⟩
      rcases absent with member | vacant
      · rcases List.mem_cons.mp member with here | later
        · exact .inr (gone other (.inl here))
        · exact .inl later
      · exact .inr (gone other (.inr vacant))

/-- Selecting binds the variable to all nodes that match, if there are some. -/
theorem run_select (name : String) (label : Option String) (properties : Properties)
    (run : Execution) :
    (select [⟨some name, label, properties⟩]).run.run run =
      if (run.store.matchNodes label properties).isEmpty then (.ok false, run)
      else (.ok true, { run with
        meanings := run.meanings.insert name
          (.nodes (run.store.matchNodes label properties)) }) := by
  rw [select, run_bind]
  change (if (run.store.matchNodes label properties).isEmpty then (return false)
    else (do
      bindName (some name) (.nodes (run.store.matchNodes label properties))
      select []) : Running Bool).run.run run = _
  split <;> rfl

/-- Deleting what a variable denotes deletes its nodes and unbinds it. -/
theorem run_delete {run : Execution} {name : String} {cells : List Nat}
    (found : run.meanings.find? name = some (.nodes cells)) (detach : Bool) :
    (delete detach [name]).run.run run =
      (deleteNodes detach cells).run.run { run with meanings := run.meanings.erase name } := by
  rw [delete, run_bind, run_get]
  dsimp only
  rw [found, run_bind]
  change (deleteNodes detach cells >>= fun _ => pure ()).run.run _ = _
  rw [bind_pure_unit]

end Running

namespace Statement

/-- The text that deletes every node and every relationship. -/
def clearing : String := "MATCH (n) DETACH DELETE n"

/-- The bound statement that deletes every node and every relationship. -/
def boundClearing : BoundStatement :=
  ⟨clearing, [.select [⟨some "n", none, OrderedMap.empty⟩], .delete ["n"] true]⟩

theorem prepare_clearing : (Statement.mk clearing none).prepare = .ok boundClearing := by
  have read : Clause.ofText clearing =
      .ok [.select [⟨some "n", none, []⟩], .delete ["n"] true] := by
    unfold Clause.ofText clearing
    simp only [String.reduceToList]
    rfl
  exact prepare_eq_ok read rfl rfl

/-- Clearing selects all nodes and, if there are some, deletes them. -/
theorem run_clauses_clearing (run : Execution) :
    (Running.clauses boundClearing.clauses).run.run run =
      if (run.store.matchNodes none OrderedMap.empty).isEmpty then (.ok (), run)
      else (Running.deleteNodes true (run.store.matchNodes none OrderedMap.empty)).run.run
        { run with meanings := (run.meanings.insert "n"
            (.nodes (run.store.matchNodes none OrderedMap.empty))).erase "n" } := by
  change (Running.select [⟨some "n", none, OrderedMap.empty⟩] >>= fun goesOn =>
    if goesOn then (Running.delete true ["n"] >>= fun _ => pure true) >>= fun goesOn =>
      if goesOn then Running.clauses [] else pure ()
    else pure ()).run.run run = _
  rw [run_bind, Running.run_select]
  let all := run.store.matchNodes none OrderedMap.empty
  cases nothing : all.isEmpty with
  | true => rfl
  | false =>
      let bound : Execution := { run with meanings := run.meanings.insert "n" (.nodes all) }
      have found : bound.meanings.find? "n" = some (.nodes all) := by
        rw [OrderedMap.find?_insert, if_pos rfl]
      change ((Running.delete true ["n"] >>= fun _ => pure true) >>= fun goesOn =>
          if goesOn then Running.clauses [] else pure ()).run.run bound =
        (Running.deleteNodes true all).run.run
          { bound with meanings := bound.meanings.erase "n" }
      rw [bind_assoc, run_bind, Running.run_delete found true]
      rcases (Running.deleteNodes true all).run.run _ with ⟨outcome, after⟩
      cases outcome <;> rfl

/-- Clearing a sound store succeeds and leaves a sound store without nodes. -/
theorem run_boundClearing {store : Store} (sound : Store.Sound store) :
    ∃ counts after, boundClearing.run store = (.ok counts, after) ∧ Store.Sound after ∧
      ∀ cell, after.node? cell = none := by
  let start : Execution := { text := clearing, store }
  let all := store.matchNodes none OrderedMap.empty
  -- a pattern without label and properties selects every node
  have absent : ∀ cell, cell ∈ all ∨ store.node? cell = none := by
    intro cell
    cases live : store.node? cell with
    | none => exact .inr rfl
    | some node => exact .inl (Store.mem_matchNodes.mpr ⟨node, live, rfl⟩)
  have ran := run_clauses_clearing start
  cases nothing : all.isEmpty with
  | true =>
      rw [if_pos nothing] at ran
      refine ⟨{}, store, ?_, sound, fun cell => (absent cell).resolve_left ?_⟩
      · unfold BoundStatement.run
        rw [show boundClearing.text = clearing from rfl, ran]
        rfl
      · rw [List.isEmpty_iff.mp nothing]
        exact List.not_mem_nil
  | false =>
      rw [if_neg (by simp [start, all, nothing])] at ran
      obtain ⟨after, deleted, afterSound, left⟩ := Running.run_deleteNodes_detach all
        { start with meanings := (start.meanings.insert "n" (.nodes all)).erase "n" } sound
      refine ⟨after.counts, after.store, ?_, afterSound, fun cell => left cell (absent cell)⟩
      unfold BoundStatement.run
      rw [show boundClearing.text = clearing from rfl, ran.trans deleted]
      rfl

end Statement

/-! ## A run that clears first -/

theorem EmbeddedSession.execute_clearing {session : EmbeddedSession}
    (ready : session.state = .ready) (sound : Store.Sound session.store) :
    ∃ after, session.execute (Statement.alone Statement.clearing) =
        (.ok (), { session with store := after }) ∧
      Store.Sound after ∧ ∀ cell, after.node? cell = none := by
  obtain ⟨counts, after, cleared, afterSound, vacant⟩ := Statement.run_boundClearing sound
  have prepared : (Statement.alone Statement.clearing).mapM Statement.prepare =
      .ok [Statement.boundClearing] := by
    rw [Statement.alone, List.mapM_cons, Statement.prepare_clearing]
    rfl
  have ran : runAll [Statement.boundClearing] session.store = (.ok (), after) := by
    rw [runAll, cleared]
    rfl
  have batch : runBatch [Statement.boundClearing] session.store = (.ok (), after) := by
    unfold runBatch
    rw [ran]
    dsimp only
    split <;> rfl
  refine ⟨after, ?_, afterSound, vacant⟩
  rw [execute_of_prepared ready prepared, batch]

/-- A run that clears first succeeds, and leaves the graph that the facts give on an empty
store, whatever the store was. -/
theorem Session.load_cleared {session : EmbeddedSession} (ready : session.state = .ready)
    (reachable : Store.Reachable session.store) (filter : Filter) (batchSize : Nat)
    {facts : List Fact} (plain : ∀ fact ∈ facts, keyProperty ∉ fact.attributes.keys) :
    ∃ stats fresh store blank,
      Loader.load accessor filter batchSize [Statement.clearing] facts (.embedded session) =
        (.ok stats, .embedded { session with store }) ∧
      Loader.load accessor filter batchSize [] facts
          (.embedded { session with store := Store.empty }) =
        (.ok fresh, .embedded { session with store := blank }) ∧
      Store.Isomorphic store blank := by
  obtain ⟨cleared, executed, clearedSound, vacant⟩ :=
    EmbeddedSession.execute_clearing ready reachable.sound
  have writtenPlain : ∀ fact ∈ filter.written facts, keyProperty ∉ fact.attributes.keys :=
    fun fact member => plain fact (Filter.mem_written member).1
  have blankReady : EmbeddedSession.state { session with store := Store.empty } = .ready := ready
  obtain ⟨fresh, loaded⟩ := load_eq_write blankReady filter batchSize facts
  have first : accessor.executeFirst [Statement.clearing] (.embedded session) =
      (.ok (), .embedded { session with store := cleared }) := by
    have alone : accessor.execute (Statement.alone Statement.clearing) (.embedded session) =
        (.ok (), .embedded { session with store := cleared }) := by
      change ((session.execute (Statement.alone Statement.clearing)).1,
        Session.embedded (session.execute (Statement.alone Statement.clearing)).2) = _
      rw [executed]
    rw [Accessor.executeFirst, alone]
    rfl
  have cut := Writer.flatten_portions batchSize [] ((filter.written facts).map Statement.ofFact)
  have rest := executeAll_ofFact
    (show EmbeddedSession.state { session with store := cleared } = .ready from ready) cut
  refine ⟨Loader.report filter batchSize [Statement.clearing] facts, fresh, _, _, ?_, loaded,
    clearedSound.isomorphic_foldl_write Store.Sound.empty vacant
      (fun cell => Arena.get?_empty cell) writtenPlain⟩
  simp only [Loader.load_eq, first, Loader.portions, rest, Prod.map, Except.map, id]

/-- The old store has two nodes with one key, of which only one is indexed. -/
theorem Session.load_cleared_rekeyed :
    let session : EmbeddedSession :=
      { path := "store", state := .ready, store := Store.rekeyed }
    let inherits : EdgeFact := ⟨.inherits, "a", "b", OrderedMap.ofList [("line", .int 3)]⟩
    let declared : NodeFact := ⟨.type, "a", OrderedMap.ofList [("kind", .text "class")]⟩
    let facts : List Fact := [.edge inherits, .node declared]
    ∃ stats fresh store blank,
      Loader.load accessor (Filter.empty false) 2 [Statement.clearing] facts
          (.embedded session) =
        (.ok stats, .embedded { session with store }) ∧
      Loader.load accessor (Filter.empty false) 2 [] facts
          (.embedded { session with store := Store.empty }) =
        (.ok fresh, .embedded { session with store := blank }) ∧
      Store.Isomorphic store blank := by
  intro session inherits declared facts
  have plain : ∀ fact ∈ facts, keyProperty ∉ fact.attributes.keys := by decide
  exact load_cleared rfl Store.reachable_rekeyed (Filter.empty false) 2 plain

end CodeGraph
