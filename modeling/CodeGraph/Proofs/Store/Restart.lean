import CodeGraph.Proofs.Store.Merging
import CodeGraph.Proofs.Store.Restored
import CodeGraph.Proofs.Store.Write
import Mathlib.Data.List.Find

/-!
# Merging after a restart

A snapshot holds no index: loading indexes, for each label and key, the first node that has
them.  Whatever is looked up is then determined by the dump and by which position is indexed.
So a restart is seen by merging on a key exactly if another node than the first one with the
key was indexed before, or none.  Where no two nodes have ever shared the key, it is not seen.
-/

namespace CodeGraph.Store

variable {store restored : Store} {key : String × String} {label name : String}
  {properties : Properties}

/-- The first node with the label and the textual key. -/
def firstKeyed? (store : Store) (key : String × String) : Option Nat :=
  store.nodes.indices.find? fun cell => (store.node? cell).any (·.key? == some key)

theorem exists_of_firstKeyed? {cell : Nat} (first : store.firstKeyed? key = some cell) :
    ∃ node, store.node? cell = some node ∧ node.key? = some key := by
  have passes := List.find?_some first
  obtain ⟨node, live, keyed⟩ := (Option.any_eq_true _ _).mp passes
  exact ⟨node, live, eq_of_beq keyed⟩

theorem firstKeyed?_isSome {cell : Nat} {node : StoredNode} (live : store.node? cell = some node)
    (keyed : node.key? = some key) : (store.firstKeyed? key).isSome = true := by
  rw [firstKeyed?, List.find?_isSome]
  exact ⟨cell, Arena.mem_indices.mpr (Option.isSome_of_eq_some live), by simp [live, keyed]⟩

/-! ## Positions -/

theorem getElem?_position {cell : Nat} {node : StoredNode} (live : store.node? cell = some node) :
    store.dump.nodes[store.position cell]? = some node :=
  Arena.getElem?_toList_idxOf live

theorem eq_of_position_eq {left right : Nat} {node : StoredNode}
    (live : store.node? left = some node) (same : store.position left = store.position right) :
    left = right :=
  (List.idxOf_inj (Arena.mem_indices.mpr (Option.isSome_of_eq_some live))).mp same

theorem map_position_firstKeyed? (store : Store) (key : String × String) :
    (store.firstKeyed? key).map store.position =
      store.dump.nodes.findIdx? (·.key? == some key) :=
  Arena.map_idxOf_find?_indices store.nodes _

/-- Without a key among the properties, the dump determines what merging finds. -/
theorem map_position_findNode? (keyless : Properties.key? properties = none) :
    (store.findNode? label properties).map store.position =
      store.dump.nodes.findIdx? (·.matchesPattern (some label) properties) := by
  have scanned : store.findNode? label properties = store.nodes.indices.find? fun cell =>
      (store.node? cell).any (·.matchesPattern (some label) properties) := by
    rw [findNode?, keyless]
    dsimp only
    rw [matchNodes, List.head?_filter]
    congr 1
    funext cell
    cases store.node? cell <;> rfl
  rw [scanned]
  exact Arena.map_idxOf_find?_indices store.nodes _

/-- With one, the dump and the indexed position do. -/
theorem map_position_findNode?_of_key? (sound : Sound store)
    (keyed : Properties.key? properties = some name) :
    (store.findNode? label properties).map store.position =
      (store.index[(label, name)]?.map store.position).filter fun position =>
        (store.dump.nodes[position]?).any (·.matchesPattern (some label) properties) := by
  rw [findNode?, keyed]
  dsimp only
  cases indexed : store.index[(label, name)]? with
  | none => rfl
  | some cell =>
      obtain ⟨node, live, -⟩ := sound.indexed (label, name) cell indexed
      have found : store.node? cell = some node := live
      rw [Option.map_some, Option.filter_some, getElem?_position found]
      dsimp only
      rw [found]
      dsimp only [Option.any_some]
      split <;> rfl

theorem nodeByKey?_eq_bind (sound : Sound store) :
    store.nodeByKey? label name =
      (store.index[(label, name)]?.map store.position).bind (store.dump.nodes[·]?) := by
  rw [nodeByKey?]
  cases indexed : store.index[(label, name)]? with
  | none => rfl
  | some cell =>
      obtain ⟨node, live, -⟩ := sound.indexed (label, name) cell indexed
      have found : store.node? cell = some node := live
      rw [Option.map_some, Option.bind_some, Option.bind_some, getElem?_position found, found]

/-! ## The index of a loaded store -/

/-- No node of the store is in a cell that was emptied, and the first node with a key is the
one that is indexed. -/
structure Fresh (store : Store) : Prop where
  full : store.nodes.vacant = []
  indexed : ∀ key, store.index[key]? = store.firstKeyed? key

namespace Fresh

theorem empty : Fresh Store.empty where
  full := rfl
  indexed := fun key => by simp [Store.empty, firstKeyed?, Arena.indices, Arena.empty]

theorem createNode (fresh : Fresh store) (label : String) (properties : Properties) :
    Fresh (store.createNode label properties).2 where
  full := (Arena.insert_of_vacant_eq_nil fresh.full _).1
  indexed := by
    intro key
    let node : StoredNode := ⟨label, properties⟩
    let created := (store.createNode label properties).2
    have next : store.nodes.next = store.nodes.cells.size := by
      rw [Arena.next, fresh.full]
      rfl
    -- the new node comes after all the others
    have indices : created.nodes.indices = store.nodes.indices ++ [store.nodes.next] := by
      obtain ⟨full, cells⟩ := Arena.insert_of_vacant_eq_nil fresh.full node
      change (store.nodes.insert node).indices = _
      rw [Arena.indices_of_vacant_eq_nil full, Arena.indices_of_vacant_eq_nil fresh.full, cells,
        Array.size_push, List.range_succ, next]
    have here : created.node? store.nodes.next = some node := by
      rw [node?_createNode, if_pos rfl]
    have before : ∀ cell ∈ store.nodes.indices,
        (created.node? cell).any (·.key? == some key) =
          (store.node? cell).any (·.key? == some key) := by
      intro cell member
      obtain ⟨old, live⟩ := Option.isSome_iff_exists.mp (Arena.mem_indices.mp member)
      have stays : created.node? cell = some old :=
        node?_createNode_of_node? label properties live
      rw [stays]
      exact congrArg _ live.symm
    have first : created.firstKeyed? key = (store.firstKeyed? key).or
        (if node.key? == some key then some store.nodes.next else none) := by
      rw [firstKeyed?, indices, List.find?_append, firstKeyed?]
      congr 1
      · exact List.find?_congr before
      · simp [here]
    rw [first, index_createNode, getElem?_claimKey, fresh.indexed key]
    cases store.firstKeyed? key <;> simp [node]

theorem createEdge (fresh : Fresh store) (source target : Nat) (type : String)
    (properties : Properties) : Fresh (store.createEdge source target type properties).2 :=
  ⟨fresh.full, fresh.indexed⟩

theorem of_load {disk : Disk} {path : String} (loaded : Store.load disk path = .ok restored) :
    Fresh restored :=
  load_induction (fun _ label properties fresh => fresh.createNode label properties)
    (fun _ source target type properties _ _ fresh =>
      fresh.createEdge source target type properties)
    Fresh.empty loaded

/-- What is indexed after a restart is at the position of the first node with the key. -/
theorem map_position_index (fresh : Fresh restored) (same : restored.dump = store.dump)
    (key : String × String) :
    restored.index[key]?.map restored.position = (store.firstKeyed? key).map store.position := by
  rw [fresh.indexed, map_position_firstKeyed?, map_position_firstKeyed?, same]

end Fresh

/-! ## What a restart changes -/

/-- Merging finds nodes at one position of the dump in both stores, or in neither. -/
def FindsAlike (left right : Store) (label : String) (properties : Properties) : Prop :=
  (left.findNode? label properties).map left.position =
    (right.findNode? label properties).map right.position

theorem findsAlike_of_keyless (same : restored.dump = store.dump)
    (keyless : Properties.key? properties = none) : FindsAlike store restored label properties := by
  unfold FindsAlike
  rw [map_position_findNode? keyless, map_position_findNode? keyless, same]

section

variable (sound : Sound store) (restoredSound : Sound restored) (fresh : Fresh restored)
  (same : restored.dump = store.dump)

include sound restoredSound fresh same

theorem findsAlike_of_first
    (first : store.index[(label, name)]? = store.firstKeyed? (label, name))
    (keyed : Properties.key? properties = some name) :
    FindsAlike store restored label properties := by
  unfold FindsAlike
  rw [map_position_findNode?_of_key? sound keyed,
    map_position_findNode?_of_key? restoredSound keyed, fresh.map_position_index same, first, same]

theorem nodeByKey?_of_first
    (first : store.index[(label, name)]? = store.firstKeyed? (label, name)) :
    store.nodeByKey? label name = restored.nodeByKey? label name := by
  rw [nodeByKey?_eq_bind sound, nodeByKey?_eq_bind restoredSound, fresh.map_position_index same,
    first, same]

/-- If merging on the key alone finds the same, the first node with the key was indexed. -/
theorem first_of_findsAlike (alike : FindsAlike store restored label (Properties.named name)) :
    store.index[(label, name)]? = store.firstKeyed? (label, name) := by
  unfold FindsAlike at alike
  rw [sound.findNode?_named, restoredSound.findNode?_named, fresh.map_position_index same] at alike
  cases indexed : store.index[(label, name)]? with
  | none =>
      rw [indexed] at alike
      exact (Option.map_eq_none_iff.mp alike.symm).symm
  | some cell =>
      obtain ⟨node, live, -⟩ := sound.indexed (label, name) cell indexed
      rw [indexed] at alike
      obtain ⟨first, found, position⟩ := Option.map_eq_some_iff.mp alike.symm
      rw [found, eq_of_position_eq live position.symm]

end

/-- Where no two nodes have ever shared the key, the first node with it is indexed. -/
theorem ReachableWithin.first_indexed
    (within : ReachableWithin (KeyUnshared label properties) store)
    (keyed : Properties.key? properties = some name) :
    store.index[(label, name)]? = store.firstKeyed? (label, name) := by
  have covered := within.covered keyed
  have sound := within.reachable.sound
  cases first : store.firstKeyed? (label, name) with
  | some cell =>
      obtain ⟨node, live, nodeKeyed⟩ := exists_of_firstKeyed? first
      exact covered.indexed sound (within.unshared name keyed) live nodeKeyed
  | none =>
      rw [Option.eq_none_iff_forall_ne_some]
      intro cell indexed
      obtain ⟨node, live, nodeKeyed⟩ := sound.indexed (label, name) cell indexed
      have exists_first := firstKeyed?_isSome live nodeKeyed
      rw [first] at exists_first
      cases exists_first

/-- A reachable store that was saved is loaded with the same dump.  Merging without a key finds
the same as before.  Merging on a key does so exactly if the first node with the key was indexed,
or no node has it, and the node under the key is the same then.  This is so where no two nodes
have ever shared the key. -/
theorem Reachable.findsAlike_of_save (reachable : Reachable store) (fits : Fits store)
    {disk written : Disk} (sound : disk.Sound) {path : String}
    (saved : store.save path disk = (.ok (), written)) :
    ∃ restored, Store.load written path = .ok restored ∧ restored.dump = store.dump ∧
      (∀ label properties, Properties.key? properties = none →
        FindsAlike store restored label properties) ∧
      (∀ label name, store.index[(label, name)]? = store.firstKeyed? (label, name) ↔
        ∀ properties, Properties.key? properties = some name →
          FindsAlike store restored label properties) ∧
      (∀ label name, store.index[(label, name)]? = store.firstKeyed? (label, name) →
        store.nodeByKey? label name = restored.nodeByKey? label name) ∧
      (∀ label properties, ReachableWithin (KeyUnshared label properties) store →
        FindsAlike store restored label properties ∧
        ∀ name, Properties.key? properties = some name →
          store.nodeByKey? label name = restored.nodeByKey? label name) := by
  have storeSound := reachable.sound
  obtain ⟨restored, loaded, same⟩ :=
    load_of_hasSaved (hasSaved_of_save sound saved) storeSound.endsLive fits
  have restoredSound := Sound.load loaded
  have fresh := Fresh.of_load loaded
  refine ⟨restored, loaded, same, fun _ _ => findsAlike_of_keyless same, ?_, ?_, ?_⟩
  · intro label name
    constructor
    · intro first properties keyed
      exact findsAlike_of_first storeSound restoredSound fresh same first keyed
    · intro alike
      exact first_of_findsAlike storeSound restoredSound fresh same (alike (.named name) rfl)
  · intro label name first
    exact nodeByKey?_of_first storeSound restoredSound fresh same first
  · intro label properties within
    constructor
    · cases keyed : Properties.key? properties with
      | none => exact findsAlike_of_keyless same keyed
      | some name =>
          exact findsAlike_of_first storeSound restoredSound fresh same
            (within.first_indexed keyed) keyed
    · intro name keyed
      exact nodeByKey?_of_first storeSound restoredSound fresh same (within.first_indexed keyed)

/-- Two nodes with one key, one after the other. -/
def doubled : Store :=
  let numbered : Properties := OrderedMap.ofList [(keyProperty, .text "x"), ("n", .int 1)]
  ((empty.createNode "T" (.named "x")).2.createNode "T" numbered).2

theorem reachable_doubled : Reachable doubled :=
  .step (.step .empty (.createNode _ _ _)) (.createNode _ _ _)

theorem fresh_doubled : Fresh doubled :=
  (Fresh.empty.createNode _ _).createNode _ _

theorem findsAlike_of_save_doubled : ∃ restored written,
    doubled.save "graph.bin" {} = (.ok (), written) ∧
      Store.load written "graph.bin" = .ok restored ∧
      FindsAlike doubled restored "T" (.named "x") ∧
      doubled.nodeByKey? "T" "x" = restored.nodeByKey? "T" "x" ∧
      doubled.nodeByKey? "T" "x" = some ⟨"T", .named "x"⟩ := by
  have fits : Fits doubled := ⟨by decide +kernel, by decide +kernel⟩
  have sound := Disk.sound_empty
  have saved : doubled.save "graph.bin" {} = (.ok (), (doubled.save "graph.bin" {}).2) := rfl
  have first := fresh_doubled.indexed ("T", "x")
  obtain ⟨restored, loaded, -, -, alike, under, -⟩ :=
    reachable_doubled.findsAlike_of_save fits sound saved
  have node : doubled.nodeByKey? "T" "x" = some ⟨"T", .named "x"⟩ := by
    rw [nodeByKey?, first]
    rfl
  exact ⟨restored, _, saved, loaded, (alike "T" "x").mp first _ rfl, under "T" "x" first, node⟩

/-- The indexed one of two nodes with a key is deleted.  The other is found only after a
restart. -/
theorem not_findsAlike_survivor : ∃ survivor restored written,
    doubled.deleteNode 0 false = .ok survivor ∧ Reachable survivor ∧
      survivor.save "graph.bin" {} = (.ok (), written) ∧
      Store.load written "graph.bin" = .ok restored ∧ restored.dump = survivor.dump ∧
      survivor.nodeByKey? "T" "x" = none ∧ survivor.findNode? "T" (.named "x") = none ∧
      (restored.nodeByKey? "T" "x").isSome = true ∧
      (restored.findNode? "T" (.named "x")).map restored.position = some 0 := by
  let survivor := (doubled.deleteNode 0 false).toOption.getD empty
  have deleted : doubled.deleteNode 0 false = .ok survivor := rfl
  have reachable : Reachable survivor := reachable_doubled.step (.deleteNode deleted)
  have fits : Fits survivor := ⟨by decide +kernel, by decide +kernel⟩
  have sound := Disk.sound_empty
  have saved : survivor.save "graph.bin" {} = (.ok (), (survivor.save "graph.bin" {}).2) := rfl
  obtain ⟨restored, loaded, same⟩ :=
    load_of_hasSaved (hasSaved_of_save sound saved) reachable.sound.endsLive fits
  have restoredSound := Sound.load loaded
  have released : survivor.index = releaseKey doubled.index (some ("T", "x")) 0 := rfl
  have indexed : doubled.index[("T", "x")]? = some 0 := fresh_doubled.indexed ("T", "x")
  have missing : survivor.index[("T", "x")]? = none := by
    rw [released, getElem?_releaseKey, if_pos ⟨rfl, indexed⟩]
  have position : restored.index[("T", "x")]?.map restored.position = some 0 := by
    rw [(Fresh.of_load loaded).map_position_index same]
    rfl
  refine ⟨survivor, restored, _, deleted, reachable, saved, loaded, same, ?_, ?_, ?_, ?_⟩
  · rw [nodeByKey?, missing]
    rfl
  · rw [reachable.sound.findNode?_named, missing]
  · rw [nodeByKey?_eq_bind restoredSound, position, same]
    rfl
  · rw [restoredSound.findNode?_named, position]

end CodeGraph.Store
