import CodeGraph.Proofs.Store.Sound
import CodeGraph.Store.File

/-!
# Stores that operations lead to

A store is reachable when operations lead to it from the empty store, relationships
being created only between live nodes.  Every reachable store is sound, so that what
is looked up through the index or at the end of a relationship is never missing.
-/

namespace CodeGraph.Store

/-- One operation on a store. -/
inductive Step : Store → Store → Prop where
  | createNode (store : Store) (label : String) (properties : Properties) :
      Step store (store.createNode label properties).2
  | mergeNode (store : Store) (label : String) (properties : Properties) :
      Step store (store.mergeNode label properties).2
  | setNode (store : Store) (cell : Nat) (changes : Properties) :
      Step store (store.setNode cell changes)
  | deleteNode {store after : Store} {cell : Nat} {detach : Bool} :
      store.deleteNode cell detach = .ok after → Step store after
  | createEdge {store : Store} {source target : Nat} (type : String)
      (properties : Properties) :
      (store.node? source).isSome = true → (store.node? target).isSome = true →
      Step store (store.createEdge source target type properties).2
  | mergeEdge {store : Store} {source target : Nat} (type : String)
      (properties : Properties) :
      (store.node? source).isSome = true → (store.node? target).isSome = true →
      Step store (store.mergeEdge source target type properties).2
  | setEdge (store : Store) (cell : Nat) (changes : Properties) :
      Step store (store.setEdge cell changes)
  | deleteEdge (store : Store) (cell : Nat) : Step store (store.deleteEdge cell)
  | clear (store : Store) : Step store empty
  | load {store after : Store} {disk : Disk} {path : String} :
      Store.load disk path = .ok after → Step store after

/-- A store that operations lead to. -/
inductive Reachable : Store → Prop where
  | empty : Reachable empty
  | step {store after : Store} : Reachable store → Step store after → Reachable after

/-! ## Loading -/

section Loading

variable {motive : Store → Prop}
  (node : ∀ store label properties, motive store → motive (store.createNode label properties).2)
  (edge : ∀ (store : Store) source target type properties,
    (store.node? source).isSome = true → (store.node? target).isSome = true →
    motive store → motive (store.createEdge source target type properties).2)

include node in
/-- The nodes of a dump come into cells that stay live. -/
private theorem restoreNodes_induction (nodes : List StoredNode) (cells : Array Nat)
    (store : Store) (holds : motive store)
    (live : ∀ cell ∈ cells, (store.node? cell).isSome = true) :
    motive (restoreNodes nodes (cells, store)).2 ∧
      ∀ cell ∈ (restoreNodes nodes (cells, store)).1,
        ((restoreNodes nodes (cells, store)).2.node? cell).isSome = true := by
  induction nodes generalizing cells store with
  | nil => exact ⟨holds, live⟩
  | cons created nodes induction =>
      have createdLive : ∀ cell ∈ cells.push store.nodes.next,
          ((store.createNode created.label created.properties).2.node? cell).isSome = true := by
        intro cell member
        rw [node?_createNode]
        split
        · rfl
        next elsewhere =>
          rcases Array.mem_push.mp member with old | new
          · exact live cell old
          · exact absurd new elsewhere
      exact induction _ _ (node store created.label created.properties holds) createdLive

include edge in
private theorem restoreEdges_induction (cells : Array Nat) (edges : List DumpedEdge)
    (store after : Store) (holds : motive store)
    (live : ∀ cell ∈ cells, (store.node? cell).isSome = true)
    (restored : restoreEdges cells edges store = some after) : motive after := by
  induction edges generalizing store with
  | nil =>
      cases restored
      exact holds
  | cons created edges induction =>
      rw [restoreEdges] at restored
      split at restored
      next source target sourceFound targetFound =>
        have sourceLive := live source (Array.mem_of_getElem? sourceFound)
        have targetLive := live target (Array.mem_of_getElem? targetFound)
        exact induction _ (edge store source target _ _ sourceLive targetLive holds) live restored
      next => cases restored

include node edge in
/-- A store is loaded by creating its nodes and then its relationships, between live nodes. -/
theorem load_induction (start : motive Store.empty) {disk : Disk} {path : String}
    {store : Store} (loaded : Store.load disk path = .ok store) : motive store := by
  have ofDump : ∀ {dump : Dump}, ofDump? dump = some store → motive store := by
    intro dump restored
    have nodes := restoreNodes_induction node dump.nodes #[] Store.empty start (by simp)
    exact restoreEdges_induction edge _ _ _ _ nodes.1 nodes.2 restored
  unfold Store.load at loaded
  split at loaded
  · cases loaded
  · cases loaded
  · unfold Snapshot.load at loaded
    split at loaded
    · cases loaded
    · split at loaded
      · cases loaded
      next restored =>
        cases loaded
        exact ofDump restored

end Loading

theorem Sound.load {disk : Disk} {path : String} {store : Store}
    (loaded : Store.load disk path = .ok store) : Sound store :=
  load_induction (fun _ label properties sound => sound.createNode label properties)
    (fun _ _ _ type properties source target sound =>
      sound.createEdge type properties source target)
    Sound.empty loaded

/-! ## Every reachable store is sound -/

theorem Step.sound {store after : Store} (step : Step store after) (sound : Sound store) :
    Sound after := by
  cases step with
  | createNode label properties => exact sound.createNode label properties
  | mergeNode label properties => exact sound.mergeNode label properties
  | setNode cell changes => exact sound.setNode cell changes
  | deleteNode deleted => exact sound.deleteNode deleted
  | createEdge type properties source target =>
      exact sound.createEdge type properties source target
  | mergeEdge type properties source target =>
      exact sound.mergeEdge type properties source target
  | setEdge cell changes => exact sound.setEdge cell changes
  | deleteEdge cell => exact sound.deleteEdge cell
  | clear => exact Sound.empty
  | load loaded => exact Sound.load loaded

theorem Reachable.sound {store : Store} (reachable : Reachable store) : Sound store := by
  induction reachable with
  | empty => exact Sound.empty
  | step _ step induction => exact step.sound induction

/-- Nothing that a reachable store refers to is missing: not the node that the index
gives for a key, not an end of a relationship, and not the position of an end in the
dump. -/
theorem Reachable.nothing_missing {store : Store} (reachable : Reachable store) :
    (∀ label key cell, store.index[(label, key)]? = some cell →
      ∃ node, store.node? cell = some node ∧ node.label = label ∧
        node.properties.find? keyProperty = some (.text key)) ∧
    (∀ (left right : String × String) (cell : Nat), store.index[left]? = some cell →
      store.index[right]? = some cell → left = right) ∧
    (∀ cell edge, store.edges.get? cell = some edge →
      (store.node? edge.source).isSome = true ∧
        (store.node? edge.target).isSome = true) ∧
    (∀ node cell, cell ∈ store.outgoing node →
      ∃ edge target, store.edges.get? cell = some edge ∧
        store.node? edge.target = some target) ∧
    (∀ edge ∈ store.dump.edges, edge.source < store.dump.nodes.length ∧
      edge.target < store.dump.nodes.length) := by
  have sound : Sound store := reachable.sound
  refine ⟨?_, ?_, ?_, ?_, ?_⟩
  · intro label key cell found
    obtain ⟨node, live, keyed⟩ := sound.indexed (label, key) cell found
    exact ⟨node, live, StoredNode.key?_eq_some_iff.mp keyed⟩
  · intro left right cell leftFound rightFound
    exact sound.indexed.eq_of_same_cell leftFound rightFound
  · intro cell edge found
    exact ⟨sound.sources cell edge found, sound.targets cell edge found⟩
  · intro node cell member
    obtain ⟨edge, found, -⟩ := sound.mem_edgesWhere.mp member
    obtain ⟨target, live⟩ := Option.isSome_iff_exists.mp (sound.targets cell edge found)
    exact ⟨edge, target, found, live⟩
  · intro dumped member
    obtain ⟨edge, edgeMember, rfl⟩ := List.mem_map.mp member
    obtain ⟨cell, found⟩ := Arena.mem_toList.mp edgeMember
    have numbered : ∀ node, (store.node? node).isSome = true →
        store.position node < store.dump.nodes.length := by
      intro node live
      rw [position, dump, ← Arena.length_indices]
      exact List.idxOf_lt_length_of_mem (Arena.mem_indices.mpr live)
    exact ⟨numbered _ (sound.sources cell edge found),
      numbered _ (sound.targets cell edge found)⟩

/-- Two nodes with one key, of which the indexed one then changes its key. -/
def rekeyed : Store :=
  let key (name : String) : Properties := OrderedMap.ofList [(keyProperty, .text name)]
  let created := (empty.createNode "Type" (key "a")).2
  let twice := (created.createNode "Type" (key "a")).2
  ((twice.setNode 0 (key "b")).createEdge 1 0 "EXTENDS" OrderedMap.empty).2

theorem reachable_rekeyed : Reachable rekeyed :=
  .step (.step (.step (.step .empty (.createNode _ _ _)) (.createNode _ _ _))
    (.setNode _ _ _)) (.createEdge _ _ rfl rfl)

theorem nothing_missing_rekeyed :
    rekeyed.index[("Type", "b")]? = some 0 ∧
      ∃ node, rekeyed.node? 0 = some node ∧ node.label = "Type" ∧
        node.properties.find? keyProperty = some (.text "b") := by
  let key (name : String) : Properties := OrderedMap.ofList [(keyProperty, .text name)]
  let twice := ((empty.createNode "Type" (key "a")).2.createNode "Type" (key "a")).2
  have index : rekeyed.index = (twice.setNode 0 (key "b")).index := rfl
  have live : twice.node? 0 = some ⟨"Type", key "a"⟩ := rfl
  have before : StoredNode.key? ⟨"Type", key "a"⟩ = some ("Type", "a") := rfl
  have changed : StoredNode.key? ⟨"Type", Properties.overlay (key "a") (key "b")⟩ =
      some ("Type", "b") := rfl
  have found : rekeyed.index[("Type", "b")]? = some 0 := by
    rw [index, index_setNode _ live]
    simp [before, changed, getElem?_claimKey, getElem?_releaseKey, twice,
      index_createNode, empty]
  exact ⟨found, reachable_rekeyed.nothing_missing.1 "Type" "b" 0 found⟩

end CodeGraph.Store
