import CodeGraph.Proofs.Sequencing
import CodeGraph.Proofs.Store.Entities
import CodeGraph.Proofs.Store.Reachable
import CodeGraph.Statement.Run

/-!
# What goes with a node

A node that is deleted takes the relationships at it along and gives up its key.  Every other
node and every other relationship stays in its cell, and every other key leads to the node to
which it led before.
-/

namespace CodeGraph

/-- A deletion that fails leaves an execution as it was. -/
theorem Running.run_deleteNodes_of_error {run : Execution} {cell : Nat} {detach : Bool}
    {failure : Failure} (failed : run.store.deleteNode cell detach = .error failure)
    (cells : List Nat) :
    (deleteNodes detach (cell :: cells)).run.run run = (.error failure, run) := by
  rw [deleteNodes, run_bind, run_get]
  dsimp only
  rw [failed]
  rfl

namespace Store

variable {store after : Store}

theorem Sound.degree_pos_iff (sound : Sound store) (cell : Nat) :
    0 < store.degree cell ↔ ∃ place, store.Attached cell (.edge place) := by
  have starts : ∀ place, place ∈ store.outgoing cell ↔
      ∃ edge, store.edges.get? place = some edge ∧ edge.source = cell := by
    intro place
    rw [outgoing, sound.mem_edgesWhere]
    simp
  have leads : ∀ place, place ∈ store.incoming cell ↔
      ∃ edge, store.edges.get? place = some edge ∧ edge.target = cell := by
    intro place
    rw [incoming, sound.mem_edgesWhere]
    simp
  rw [degree, Nat.add_pos_iff_pos_or_pos, List.length_pos_iff_exists_mem,
    List.length_pos_iff_exists_mem, ← exists_or]
  apply exists_congr
  intro place
  rw [starts, leads, ← exists_or]
  apply exists_congr
  intro edge
  exact and_or_left.symm

/-- The relationships that an isolated node leaves are those that it is no end of. -/
theorem Sound.get?_isolate_eq_some_iff (sound : Sound store) {cell place : Nat}
    {edge : StoredEdge} :
    (store.isolate cell).edges.get? place = some edge ↔
      store.edges.get? place = some edge ∧ edge.source ≠ cell ∧ edge.target ≠ cell := by
  constructor
  · intro found
    have apart := sound.isolated found
    rw [Store.isolate, get?_deleteEdges, get?_deleteEdges] at found
    split at found
    · cases found
    · split at found
      · cases found
      · exact ⟨found, apart⟩
  · rintro ⟨found, notSource, notTarget⟩
    let leaving := (store.outgoing cell).foldl Store.deleteEdge store
    have notOutgoing : place ∉ store.outgoing cell := by
      intro member
      obtain ⟨other, held, starts⟩ := sound.mem_edgesWhere.mp member
      rw [found] at held
      cases held
      exact notSource (by simpa using starts)
    have stillThere : leaving.edges.get? place = some edge := by
      rw [get?_deleteEdges, if_neg notOutgoing]
      exact found
    have notIncoming : place ∉ leaving.incoming cell := by
      intro member
      obtain ⟨other, held, leads⟩ := (sound.deleteEdges _).mem_edgesWhere.mp member
      rw [stillThere] at held
      cases held
      exact notTarget (by simpa using leads)
    rw [Store.isolate, get?_deleteEdges, if_neg notIncoming]
    exact stillThere

/-- One store is another one without a node: the relationships at the node are gone, and a key
that led to it leads nowhere. -/
structure Lacks (store : Store) (cell : Nat) (after : Store) : Prop where
  nodes : ∀ other node, after.node? other = some node ↔
    store.node? other = some node ∧ other ≠ cell
  edges : ∀ place edge, after.edges.get? place = some edge ↔
    store.edges.get? place = some edge ∧ edge.source ≠ cell ∧ edge.target ≠ cell
  index : ∀ key : String × String, after.index[key]? =
    if store.index[key]? = some cell then none else store.index[key]?

namespace Lacks

variable {cell : Nat}

theorem of_vacant (sound : Sound store) (vacant : store.node? cell = none) :
    Lacks store cell store := by
  constructor
  · intro other node
    apply (and_iff_left_of_imp _).symm
    intro live same
    rw [same, vacant] at live
    cases live
  · intro place edge
    apply (and_iff_left_of_imp _).symm
    intro found
    have ends := And.intro (sound.sources place edge found) (sound.targets place edge found)
    constructor
    · intro same
      simp [same, vacant] at ends
    · intro same
      simp [same, vacant] at ends
  · intro key
    rw [if_neg]
    intro found
    obtain ⟨node, live, -⟩ := sound.indexed key cell found
    cases vacant.symm.trans live

theorem of_deleteNode (sound : Sound store) {detach : Bool}
    (deleted : store.deleteNode cell detach = .ok after) : Lacks store cell after := by
  cases live : store.node? cell with
  | none =>
      rw [deleteNode, live] at deleted
      cases deleted
      exact of_vacant sound live
  | some node =>
      rw [deleteNode_of_node? detach live] at deleted
      split at deleted
      · cases deleted
      cases deleted
      constructor
      · intro other kept
        rw [node?, Arena.get?_erase, nodes_isolate, node?]
        by_cases here : other = cell
        · simp [here]
        · simp [here]
      · intro place edge
        exact sound.get?_isolate_eq_some_iff
      · intro key
        -- Of the keys only the node's own can lead to it, so that giving up this one is enough.
        rw [index_isolate, getElem?_releaseKey]
        apply if_congr _ rfl rfl
        apply and_iff_right_of_imp
        intro found
        exact sound.indexed.key_of_get? found live

/-- A key that led to another node leads to it still. -/
theorem nodeByKey?_of_ne (lacks : Lacks store cell after) {label key : String}
    (other : store.index[(label, key)]? ≠ some cell) :
    after.nodeByKey? label key = store.nodeByKey? label key := by
  rw [nodeByKey?, nodeByKey?, lacks.index, if_neg other]
  apply Option.bind_congr
  intro place found
  apply Option.ext
  intro node
  rw [lacks.nodes]
  apply and_iff_left
  intro same
  exact other (same ▸ found)

theorem nodeByKey?_self (lacks : Lacks store cell after) {label key : String}
    (led : store.index[(label, key)]? = some cell) : after.nodeByKey? label key = none := by
  rw [nodeByKey?, lacks.index, if_pos led]
  rfl

end Lacks

/-- Exactly the plain deletion of a live node with relationships fails. -/
theorem Sound.deleteNode_eq_error_iff (sound : Sound store) (cell : Nat) (detach : Bool) :
    (∃ failure, store.deleteNode cell detach = .error failure) ↔
      (store.node? cell).isSome = true ∧ (∃ place, store.Attached cell (.edge place)) ∧
        detach = false := by
  constructor
  · intro ⟨failure, failed⟩
    obtain ⟨plain, node, live, connected, -⟩ := exists_of_deleteNode_eq_error failed
    exact ⟨by simp [live], (sound.degree_pos_iff cell).mp connected, plain⟩
  · intro ⟨isLive, attached, plain⟩
    obtain ⟨node, live⟩ := Option.isSome_iff_exists.mp isLive
    have connected := (sound.degree_pos_iff cell).mpr attached
    rw [deleteNode_of_node? detach live, if_pos (by simp [connected, plain])]
    exact ⟨_, rfl⟩

/-- Deleting a node fails, and then changes nothing, if and only if the node is there with
relationships that may not go along.  Otherwise it takes away the node and the relationships at
it and nothing else, and only the key that led to the node leads elsewhere, namely nowhere. -/
theorem Reachable.deleteNode_exact (reachable : Reachable store) (cell : Nat) (detach : Bool) :
    ((∃ failure, store.deleteNode cell detach = .error failure) ↔
      (store.node? cell).isSome = true ∧ (∃ place, store.Attached cell (.edge place)) ∧
        detach = false) ∧
    (∀ failure, store.deleteNode cell detach = .error failure →
      ∀ run : Execution, run.store = store →
        (Running.deleteNodes detach [cell]).run.run run = (.error failure, run)) ∧
    (∀ after, store.deleteNode cell detach = .ok after →
      (∀ other node, after.node? other = some node ↔
        store.node? other = some node ∧ other ≠ cell) ∧
      (∀ place edge, after.edges.get? place = some edge ↔
        store.edges.get? place = some edge ∧ edge.source ≠ cell ∧ edge.target ≠ cell) ∧
      (∀ label key, store.index[(label, key)]? ≠ some cell →
        after.nodeByKey? label key = store.nodeByKey? label key) ∧
      (∀ label key, store.index[(label, key)]? = some cell →
        after.nodeByKey? label key = none)) := by
  have sound : Sound store := reachable.sound
  refine ⟨sound.deleteNode_eq_error_iff cell detach, ?_, ?_⟩
  · intro failure failed run same
    apply Running.run_deleteNodes_of_error
    rw [same]
    exact failed
  · intro after deleted
    have lacks : Lacks store cell after := .of_deleteNode sound deleted
    exact ⟨lacks.nodes, lacks.edges, fun _ _ => lacks.nodeByKey?_of_ne,
      fun _ _ => lacks.nodeByKey?_self⟩

/-- A node with a relationship and without an entry in the index: it goes, and the node that
has an entry stays. -/
theorem deleteNode_exact_rekeyed :
    Reachable rekeyed ∧ (∃ failure, rekeyed.deleteNode 1 false = .error failure) ∧
    ∃ after, rekeyed.deleteNode 1 true = .ok after ∧ after.node? 1 = none ∧
      after.edges.get? 0 = none ∧ (after.node? 0).isSome = true ∧
      after.nodeByKey? "Type" "b" = rekeyed.nodeByKey? "Type" "b" := by
  have exact (detach : Bool) := reachable_rekeyed.deleteNode_exact 1 detach
  have joined : rekeyed.Attached 1 (.edge 0) :=
    ⟨⟨1, 0, "EXTENDS", OrderedMap.empty⟩, rfl, .inl rfl⟩
  have fails := (exact false).1.mpr ⟨rfl, ⟨0, joined⟩, rfl⟩
  refine ⟨reachable_rekeyed, fails, ?_⟩
  cases deleted : rekeyed.deleteNode 1 true with
  | error failure =>
      have plain := (exact true).1.mp ⟨failure, deleted⟩
      cases plain.2.2
  | ok after =>
      obtain ⟨nodes, edges, others, -⟩ := (exact true).2.2 after deleted
      refine ⟨after, rfl, ?_, ?_, ?_, ?_⟩
      · rw [Option.eq_none_iff_forall_ne_some]
        intro node live
        exact ((nodes 1 node).mp live).2 rfl
      · rw [Option.eq_none_iff_forall_ne_some]
        intro edge found
        obtain ⟨held, notSource, -⟩ := (edges 0 edge).mp found
        cases held
        exact notSource rfl
      · rw [(nodes 0 _).mpr ⟨rfl, by decide⟩]
        rfl
      · apply others
        intro found
        obtain ⟨node, live, keyed⟩ := reachable_rekeyed.sound.indexed _ _ found
        cases live
        exact absurd keyed (by decide)

end Store

end CodeGraph
