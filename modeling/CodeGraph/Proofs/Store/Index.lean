import CodeGraph.Proofs.Arena
import CodeGraph.Store

/-!
# The index of keys

An index is sound when each of its entries leads to a live node whose label and textual
key are exactly the entry's.  Nodes that come, go or change their properties keep the
index sound as long as they claim and release their keys.
-/

namespace CodeGraph

theorem StoredNode.key?_eq_some_iff {node : StoredNode} {label key : String} :
    node.key? = some (label, key) ↔
      node.label = label ∧ node.properties.find? keyProperty = some (.text key) := by
  unfold StoredNode.key? Properties.key?
  cases found : node.properties.find? keyProperty with
  | none => simp
  | some value =>
      cases value <;> simp [PropertyValue.asText?]

namespace Store

/-- Every entry of the index leads to a node with exactly its key. -/
def IndexSound (nodes : Arena StoredNode) (index : Std.HashMap (String × String) Nat) :
    Prop :=
  ∀ key cell, index[key]? = some cell →
    ∃ node, nodes.get? cell = some node ∧ node.key? = some key

theorem getElem?_claimKey (index : Std.HashMap (String × String) Nat)
    (key : Option (String × String)) (node : Nat) (asked : String × String) :
    (claimKey index key node)[asked]? =
      if key = some asked ∧ index[asked]? = none then some node else index[asked]? := by
  cases key with
  | none => simp [claimKey]
  | some key =>
      simp only [claimKey, Std.HashMap.getElem?_insertIfNew, beq_iff_eq,
        Option.some.injEq]
      by_cases same : key = asked
      · subst asked
        cases found : index[key]? with
        | none =>
            have absent : key ∉ index := by
              rw [Std.HashMap.mem_iff_isSome_getElem?, found]
              simp
            simp [absent]
        | some cell =>
            have present : key ∈ index := by
              rw [Std.HashMap.mem_iff_isSome_getElem?, found]
              rfl
            simp [present]
      · simp [same]

theorem getElem?_releaseKey (index : Std.HashMap (String × String) Nat)
    (key : Option (String × String)) (node : Nat) (asked : String × String) :
    (releaseKey index key node)[asked]? =
      if key = some asked ∧ index[asked]? = some node then none else index[asked]? := by
  cases key with
  | none => simp [releaseKey]
  | some key =>
      simp only [releaseKey, Option.some.injEq]
      by_cases same : key = asked
      · subst asked
        by_cases owned : index[key]? = some node
        · simp [owned]
        · simp [owned]
      · by_cases owned : index[key]? = some node
        · simp [owned, same, Std.HashMap.getElem?_erase]
        · simp [owned, same]

theorem index_createNode (store : Store) (label : String) (properties : Properties) :
    (store.createNode label properties).2.index =
      claimKey store.index (StoredNode.key? ⟨label, properties⟩) store.nodes.next := rfl

theorem index_setNode {store : Store} {cell : Nat} {node : StoredNode}
    (changes : Properties) (live : store.node? cell = some node) :
    (store.setNode cell changes).index =
      let changed := { node with properties := Properties.overlay node.properties changes }
      if node.key? = changed.key? then store.index
      else claimKey (releaseKey store.index node.key? cell) changed.key? cell := by
  unfold setNode
  rw [live]

/-- A node that comes into an unused cell may claim its key. -/
theorem IndexSound.insert {nodes : Arena StoredNode}
    {index : Std.HashMap (String × String) Nat} (sound : IndexSound nodes index)
    (node : StoredNode) :
    IndexSound (nodes.insert node) (claimKey index node.key? nodes.next) := by
  intro key cell found
  rw [getElem?_claimKey] at found
  split at found
  next claimed =>
    cases found
    exact ⟨node, Arena.get?_insert_next nodes node, claimed.1⟩
  next before =>
    obtain ⟨old, live, keyed⟩ := sound key cell found
    exact ⟨old, Arena.get?_insert_of_get? node live, keyed⟩

/-- An entry that leads to the node of a cell is an entry for the node's own key. -/
theorem IndexSound.key_of_get? {nodes : Arena StoredNode}
    {index : Std.HashMap (String × String) Nat} (sound : IndexSound nodes index)
    {key : String × String} {cell : Nat} {node : StoredNode}
    (found : index[key]? = some cell) (live : nodes.get? cell = some node) :
    node.key? = some key := by
  obtain ⟨other, otherLive, keyed⟩ := sound key cell found
  rw [live] at otherLive
  cases otherLive
  exact keyed

/-- A node is indexed under one key at most. -/
theorem IndexSound.eq_of_same_cell {nodes : Arena StoredNode}
    {index : Std.HashMap (String × String) Nat} (sound : IndexSound nodes index)
    {left right : String × String} {cell : Nat} (leftFound : index[left]? = some cell)
    (rightFound : index[right]? = some cell) : left = right := by
  obtain ⟨node, live, keyed⟩ := sound left cell leftFound
  have same := sound.key_of_get? rightFound live
  exact Option.some.inj (keyed.symm.trans same)

/-- What is left of the index once a node has given up its key does not lead to the
node any more. -/
theorem IndexSound.release {nodes : Arena StoredNode}
    {index : Std.HashMap (String × String) Nat} (sound : IndexSound nodes index)
    {cell : Nat} {node : StoredNode} (live : nodes.get? cell = some node)
    {key : String × String} {other : Nat}
    (found : (releaseKey index node.key? cell)[key]? = some other) :
    index[key]? = some other ∧ other ≠ cell := by
  rw [getElem?_releaseKey] at found
  split at found
  next released => cases found
  next kept =>
    refine ⟨found, ?_⟩
    intro same
    subst other
    exact kept ⟨sound.key_of_get? found live, found⟩

theorem IndexSound.modify {nodes : Arena StoredNode}
    {index : Std.HashMap (String × String) Nat} (sound : IndexSound nodes index)
    {cell : Nat} {node : StoredNode} (live : nodes.get? cell = some node)
    (changed : StoredNode) :
    IndexSound (nodes.modify cell fun _ => changed)
      (if node.key? = changed.key? then index
        else claimKey (releaseKey index node.key? cell) changed.key? cell) := by
  have current : (nodes.modify cell fun _ => changed).get? cell = some changed := by
    simp [Arena.get?_modify, live]
  have others : ∀ other, other ≠ cell →
      (nodes.modify cell fun _ => changed).get? other = nodes.get? other := by
    intro other different
    simp [Arena.get?_modify, different]
  intro key other found
  split at found
  next same =>
    by_cases here : other = cell
    · subst other
      exact ⟨changed, current, same ▸ sound.key_of_get? found live⟩
    · rw [others other here]
      exact sound key other found
  next different =>
    rw [getElem?_claimKey] at found
    split at found
    next claimed =>
      cases found
      exact ⟨changed, current, claimed.1⟩
    next before =>
      obtain ⟨kept, elsewhere⟩ := sound.release live found
      rw [others other elsewhere]
      exact sound key other kept

theorem IndexSound.erase {nodes : Arena StoredNode}
    {index : Std.HashMap (String × String) Nat} (sound : IndexSound nodes index)
    {cell : Nat} {node : StoredNode} (live : nodes.get? cell = some node) :
    IndexSound (nodes.erase cell) (releaseKey index node.key? cell) := by
  intro key other found
  obtain ⟨kept, elsewhere⟩ := sound.release live found
  obtain ⟨old, oldLive, keyed⟩ := sound key other kept
  exact ⟨old, by simp [Arena.get?_erase, elsewhere, oldLive], keyed⟩

end Store

end CodeGraph
