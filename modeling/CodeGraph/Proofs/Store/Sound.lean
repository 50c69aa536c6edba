import CodeGraph.Proofs.Store.Cells
import CodeGraph.Proofs.Store.Index
import CodeGraph.Store.File

/-!
# Sound stores

A store keeps its graph in three places: the cells of nodes and relationships, the
list of relationships by age, and the index of keys.  In a sound store they fit
together: the index leads to live nodes that have the key, relationships lead from
live nodes to live nodes, and the list by age holds the live relationships.  Every
operation keeps a store sound, so every store that operations lead to is sound.
-/

namespace CodeGraph.Store

/-- The parts of a store fit together. -/
structure Sound (store : Store) : Prop where
  indexed : IndexSound store.nodes store.index
  sources : ∀ cell edge, store.edges.get? cell = some edge →
    (store.node? edge.source).isSome = true
  targets : ∀ cell edge, store.edges.get? cell = some edge →
    (store.node? edge.target).isSome = true
  mem_recent : ∀ cell, cell ∈ store.recent ↔ (store.edges.get? cell).isSome = true
  nodup_recent : store.recent.Nodup

namespace Sound

theorem empty : Sound Store.empty where
  indexed := by
    intro key cell found
    simp [Store.empty] at found
  sources := by
    intro cell edge found
    simp [Store.empty] at found
  targets := by
    intro cell edge found
    simp [Store.empty] at found
  mem_recent := by simp [Store.empty]
  nodup_recent := List.nodup_nil

variable {store : Store}

/-! ## Nodes -/

theorem createNode (sound : Sound store) (label : String) (properties : Properties) :
    Sound (store.createNode label properties).2 := by
  have kept : ∀ cell, (store.node? cell).isSome = true →
      ((store.createNode label properties).2.node? cell).isSome = true := by
    intro cell live
    obtain ⟨node, found⟩ := Option.isSome_iff_exists.mp live
    rw [node?_createNode_of_node? label properties found]
    rfl
  exact
    { indexed := sound.indexed.insert ⟨label, properties⟩
      sources := fun cell edge found => kept _ (sound.sources cell edge found)
      targets := fun cell edge found => kept _ (sound.targets cell edge found)
      mem_recent := sound.mem_recent
      nodup_recent := sound.nodup_recent }

theorem mergeNode (sound : Sound store) (label : String) (properties : Properties) :
    Sound (store.mergeNode label properties).2 := by
  unfold Store.mergeNode
  split
  · exact sound
  · exact sound.createNode label properties

theorem setNode (sound : Sound store) (cell : Nat) (changes : Properties) :
    Sound (store.setNode cell changes) := by
  have kept : ∀ other, (store.node? other).isSome = true →
      ((store.setNode cell changes).node? other).isSome = true := by
    intro other live
    rw [node?_setNode]
    split
    · simpa using live
    · exact live
  have indexed : IndexSound (store.setNode cell changes).nodes
      (store.setNode cell changes).index := by
    unfold Store.setNode
    split
    next => exact sound.indexed
    next node live => exact sound.indexed.modify live _
  refine
    { indexed
      sources := ?_
      targets := ?_
      mem_recent := ?_
      nodup_recent := ?_ }
  · intro other edge found
    rw [edges_setNode] at found
    exact kept _ (sound.sources other edge found)
  · intro other edge found
    rw [edges_setNode] at found
    exact kept _ (sound.targets other edge found)
  · simpa using sound.mem_recent
  · simpa using sound.nodup_recent

/-! ## Relationships -/

theorem createEdge (sound : Sound store) {source target : Nat} (type : String)
    (properties : Properties) (sourceLive : (store.node? source).isSome = true)
    (targetLive : (store.node? target).isSome = true) :
    Sound (store.createEdge source target type properties).2 where
  indexed := sound.indexed
  sources := by
    intro cell edge found
    rw [get?_createEdge] at found
    split at found
    · cases found
      exact sourceLive
    · exact sound.sources cell edge found
  targets := by
    intro cell edge found
    rw [get?_createEdge] at found
    split at found
    · cases found
      exact targetLive
    · exact sound.targets cell edge found
  mem_recent := by
    intro cell
    rw [get?_createEdge]
    simp only [Store.createEdge, List.mem_cons, sound.mem_recent]
    split
    next here => simp [here]
    next elsewhere => simp [elsewhere]
  nodup_recent := by
    refine List.nodup_cons.mpr ⟨?_, sound.nodup_recent⟩
    intro member
    simpa using (sound.mem_recent _).mp member

theorem mergeEdge (sound : Sound store) {source target : Nat} (type : String)
    (properties : Properties) (sourceLive : (store.node? source).isSome = true)
    (targetLive : (store.node? target).isSome = true) :
    Sound (store.mergeEdge source target type properties).2 := by
  unfold Store.mergeEdge
  split
  · exact sound
  · exact sound.createEdge type properties sourceLive targetLive

theorem setEdge (sound : Sound store) (cell : Nat) (changes : Properties) :
    Sound (store.setEdge cell changes) where
  indexed := sound.indexed
  sources := by
    intro other edge found
    obtain ⟨before, beforeFound, source, -⟩ := of_get?_setEdge found
    exact source ▸ sound.sources other before beforeFound
  targets := by
    intro other edge found
    obtain ⟨before, beforeFound, -, target, -⟩ := of_get?_setEdge found
    exact target ▸ sound.targets other before beforeFound
  mem_recent := by
    intro other
    rw [get?_setEdge]
    split
    · rw [Option.isSome_map]
      exact sound.mem_recent other
    · exact sound.mem_recent other
  nodup_recent := sound.nodup_recent

theorem deleteEdge (sound : Sound store) (cell : Nat) : Sound (store.deleteEdge cell) := by
  have before : ∀ other edge, (store.deleteEdge cell).edges.get? other = some edge →
      store.edges.get? other = some edge := by
    intro other edge found
    simp only [Store.deleteEdge, Arena.get?_erase] at found
    split at found
    · cases found
    · exact found
  exact
    { indexed := sound.indexed
      sources := fun other edge found => sound.sources other edge (before other edge found)
      targets := fun other edge found => sound.targets other edge (before other edge found)
      mem_recent := by
        intro other
        simp only [Store.deleteEdge, sound.nodup_recent.mem_erase_iff, Arena.get?_erase,
          sound.mem_recent]
        split
        next here => simp [here]
        next elsewhere => simp [elsewhere]
      nodup_recent := sound.nodup_recent.erase cell }

theorem deleteEdges (sound : Sound store) (cells : List Nat) :
    Sound (cells.foldl Store.deleteEdge store) := by
  induction cells generalizing store with
  | nil => exact sound
  | cons cell cells induction => exact induction (sound.deleteEdge cell)

theorem mem_edgesWhere (sound : Sound store) {test : StoredEdge → Bool} {cell : Nat} :
    cell ∈ store.edgesWhere test ↔
      ∃ edge, store.edges.get? cell = some edge ∧ test edge = true := by
  rw [edgesWhere, List.mem_filter, sound.mem_recent]
  cases found : store.edges.get? cell <;> simp

theorem isolate (sound : Sound store) (cell : Nat) : Sound (store.isolate cell) :=
  (sound.deleteEdges _).deleteEdges _

/-- No relationship is left at an isolated node. -/
theorem isolated (sound : Sound store) {cell other : Nat} {edge : StoredEdge}
    (found : (store.isolate cell).edges.get? other = some edge) :
    edge.source ≠ cell ∧ edge.target ≠ cell := by
  let leaving := (store.outgoing cell).foldl Store.deleteEdge store
  have leavingSound : Sound leaving := sound.deleteEdges _
  rw [Store.isolate, get?_deleteEdges] at found
  split at found
  · cases found
  next notIncoming =>
    constructor
    · intro same
      rw [get?_deleteEdges] at found
      split at found
      · cases found
      next notOutgoing =>
        exact notOutgoing (sound.mem_edgesWhere.mpr ⟨edge, found, by simp [same]⟩)
    · intro same
      exact notIncoming (leavingSound.mem_edgesWhere.mpr ⟨edge, found, by simp [same]⟩)

theorem deleteNode (sound : Sound store) {cell : Nat} {detach : Bool} {after : Store}
    (deleted : store.deleteNode cell detach = .ok after) : Sound after := by
  cases live : store.node? cell with
  | none =>
      simp only [Store.deleteNode, live] at deleted
      cases deleted
      exact sound
  | some node =>
      rw [deleteNode_of_node? detach live] at deleted
      split at deleted
      · cases deleted
      · have alone : Sound (store.isolate cell) := sound.isolate cell
        have aloneLive : (store.isolate cell).nodes.get? cell = some node := by
          rw [nodes_isolate]
          exact live
        have kept : ∀ other, other ≠ cell →
            ((store.isolate cell).node? other).isSome = true →
            (((store.isolate cell).nodes.erase cell).get? other).isSome = true := by
          intro other different otherLive
          rw [Arena.get?_erase, if_neg different]
          exact otherLive
        cases deleted
        exact
          { indexed := alone.indexed.erase aloneLive
            sources := fun other edge found =>
              kept _ (sound.isolated found).1 (alone.sources other edge found)
            targets := fun other edge found =>
              kept _ (sound.isolated found).2 (alone.targets other edge found)
            mem_recent := alone.mem_recent
            nodup_recent := alone.nodup_recent }

end Sound

end CodeGraph.Store
