import CodeGraph.Proofs.Disk
import CodeGraph.Proofs.Store.Reachable
import CodeGraph.Proofs.Store.Snapshot

/-!
# Loading what was saved

Restoring a dump fills the cells of an empty store in order, so that its positions become
the cells and the dump of the store is the dump again.  A store that was saved is therefore
loaded with the same dump, and everything that is determined by the dump stays the same.
-/

namespace CodeGraph.Store

/-! ## Restoring a dump -/

private theorem restoreNodes_spec (nodes : List StoredNode) (cells : Array Nat) (store : Store)
    (full : store.nodes.vacant = [])
    (numbered : cells.toList = List.range store.nodes.cells.size) :
    (restoreNodes nodes (cells, store)).2.nodes.vacant = [] ∧
      (restoreNodes nodes (cells, store)).1.toList =
        List.range (restoreNodes nodes (cells, store)).2.nodes.cells.size ∧
      (restoreNodes nodes (cells, store)).2.nodes.toList = store.nodes.toList ++ nodes ∧
      (restoreNodes nodes (cells, store)).2.edges = store.edges := by
  induction nodes generalizing cells store with
  | nil => exact ⟨full, numbered, (List.append_nil _).symm, rfl⟩
  | cons node nodes induction =>
      obtain ⟨stillFull, grown⟩ := Arena.insert_of_vacant_eq_nil full node
      have next : store.nodes.next = store.nodes.cells.size := by
        rw [Arena.next, full]
        rfl
      have pushed : (cells.push store.nodes.next).toList =
          List.range (store.nodes.insert node).cells.size := by
        rw [Array.toList_push, numbered, next, grown, Array.size_push, List.range_succ]
      obtain ⟨restFull, restNumbered, restNodes, restEdges⟩ :=
        induction _ (store.createNode node.label node.properties).2 stillFull pushed
      refine ⟨restFull, restNumbered, ?_, restEdges⟩
      have first : (store.createNode node.label node.properties).2.nodes.toList =
          store.nodes.toList ++ [node] := Arena.toList_insert_of_vacant_eq_nil full node
      rw [first, List.append_assoc, List.singleton_append] at restNodes
      exact restNodes

private theorem restoreEdges_spec (edges : List DumpedEdge) {cells : Array Nat} {count : Nat}
    (store : Store) (full : store.edges.vacant = []) (numbered : cells.toList = List.range count)
    (inside : ∀ edge ∈ edges, edge.source < count ∧ edge.target < count) :
    ∃ restored, restoreEdges cells edges store = some restored ∧ restored.nodes = store.nodes ∧
      restored.edges.toList = store.edges.toList ++ edges.map fun edge =>
        ⟨edge.source, edge.target, edge.type, edge.properties⟩ := by
  induction edges generalizing store with
  | nil => exact ⟨store, rfl, rfl, (List.append_nil _).symm⟩
  | cons edge edges induction =>
      obtain ⟨⟨source, target⟩, rest⟩ := List.forall_mem_cons.mp inside
      have cell : ∀ position, position < count → cells[position]? = some position := by
        intro position within
        rw [← Array.getElem?_toList, numbered, List.getElem?_range within]
      let joined : StoredEdge := ⟨edge.source, edge.target, edge.type, edge.properties⟩
      obtain ⟨restored, restores, nodes, kept⟩ := induction
        (store.createEdge edge.source edge.target edge.type edge.properties).2
        (Arena.insert_of_vacant_eq_nil full joined).1 rest
      refine ⟨restored, ?_, nodes, ?_⟩
      · rw [restoreEdges, cell _ source, cell _ target]
        exact restores
      · have first : (store.createEdge edge.source edge.target edge.type
            edge.properties).2.edges.toList = store.edges.toList ++ [joined] :=
          Arena.toList_insert_of_vacant_eq_nil full joined
        rw [first, List.append_assoc] at kept
        exact kept

/-- The nodes of a dump come into the first cells of an empty store, in order. -/
private theorem restoreNodes_empty (nodes : List StoredNode) :
    ∃ cells store, restoreNodes nodes (#[], empty) = (cells, store) ∧
      cells.toList = List.range nodes.length ∧ store.nodes.indices = List.range nodes.length ∧
      store.nodes.toList = nodes ∧ store.edges = Arena.empty := by
  obtain ⟨full, numbered, restored, edges⟩ := restoreNodes_spec nodes #[] empty rfl rfl
  rcases made : restoreNodes nodes (#[], empty) with ⟨cells, store⟩
  rw [made] at full numbered restored edges
  dsimp only at full numbered restored edges
  have count : store.nodes.cells.size = nodes.length := by
    rw [← Arena.length_toList_of_vacant_eq_nil full, restored]
    rfl
  rw [count] at numbered
  refine ⟨cells, store, rfl, numbered, ?_, restored, edges⟩
  rw [Arena.indices_of_vacant_eq_nil full, count]

/-- A dump without loose ends is the dump of the store that it is restored to. -/
theorem exists_ofDump? {dump : Dump}
    (inside : ∀ edge ∈ dump.edges, edge.source < dump.nodes.length ∧
      edge.target < dump.nodes.length) :
    ∃ restored, ofDump? dump = some restored ∧ restored.dump = dump := by
  obtain ⟨cells, store, made, numbered, indices, nodes, edges⟩ := restoreNodes_empty dump.nodes
  obtain ⟨restored, restores, sameNodes, restoredEdges⟩ :=
    restoreEdges_spec dump.edges store (edges ▸ rfl) numbered inside
  have position : ∀ cell, cell < dump.nodes.length → restored.position cell = cell := by
    intro cell within
    have listed : cell < (List.range dump.nodes.length).length := by rwa [List.length_range]
    have found := List.nodup_range.idxOf_getElem cell listed
    rw [List.getElem_range] at found
    rwa [Store.position, sameNodes, indices]
  refine ⟨restored, ?_, ?_⟩
  · rw [ofDump?, made]
    exact restores
  · have sameEdges : restored.dump.edges = dump.edges := by
      rw [edges] at restoredEdges
      change restored.edges.toList.map _ = _
      rw [restoredEdges]
      change (dump.edges.map _).map _ = _
      rw [List.map_map]
      refine (List.map_congr_left fun edge member => ?_).trans (List.map_id _)
      obtain ⟨source, target⟩ := inside edge member
      simp [position _ source, position _ target]
    have restoredNodes : restored.dump.nodes = dump.nodes := by
      change restored.nodes.toList = _
      rw [sameNodes, nodes]
    exact congr (congrArg Dump.mk restoredNodes) sameEdges

/-- A dump with a loose end is restored to nothing. -/
theorem inside_of_ofDump? {dump : Dump} {restored : Store}
    (restores : ofDump? dump = some restored) :
    ∀ edge ∈ dump.edges, edge.source < dump.nodes.length ∧
      edge.target < dump.nodes.length := by
  have ends : ∀ (cells : Array Nat) (edges : List DumpedEdge) (store : Store),
      restoreEdges cells edges store = some restored →
      ∀ edge ∈ edges, edge.source < cells.size ∧ edge.target < cells.size := by
    intro cells edges
    induction edges with
    | nil => exact fun _ _ _ member => absurd member List.not_mem_nil
    | cons first edges induction =>
        intro store passed
        rw [restoreEdges] at passed
        split at passed
        next source target sourceFound targetFound =>
          have sourceInside := (Array.getElem?_eq_some_iff.mp sourceFound).1
          have targetInside := (Array.getElem?_eq_some_iff.mp targetFound).1
          exact List.forall_mem_cons.mpr ⟨⟨sourceInside, targetInside⟩, induction _ passed⟩
        next => cases passed
  obtain ⟨cells, store, made, numbered, -⟩ := restoreNodes_empty dump.nodes
  have count : cells.size = dump.nodes.length := by
    rw [← Array.length_toList, numbered, List.length_range]
  rw [ofDump?, made] at restores
  rw [← count]
  exact ends cells dump.edges store restores

/-! ## What the dump determines -/

theorem stats_eq_of_dump_eq {store other : Store} (same : store.dump = other.dump) :
    store.stats = other.stats := by
  have nodes : store.nodes.toList = other.nodes.toList := congrArg Dump.nodes same
  have edges : store.dump.edges = other.dump.edges := congrArg Dump.edges same
  have count : ∀ store : Store, store.edgeCount = store.dump.edges.length :=
    fun store => (List.length_map _).symm
  have types : ∀ store : Store, store.edges.toList.map (·.type) =
      store.dump.edges.map (·.type) := by
    intro store
    simp [Store.dump]
  unfold stats
  rw [count, count, types, types, edges, nodeCount, nodeCount, Arena.size, Arena.size, nodes]

/-! ## Saving and loading -/

/-- A store that a machine can hold: numbers of nodes take 32 bits, and the snapshot, with
every length in it, is shorter than 2 ^ 64 bytes. -/
structure Fits (store : Store) : Prop where
  nodes : store.nodeCount < 2 ^ 32
  bytes : (Snapshot.save store).length < 2 ^ 64

/-- The snapshot of a store is read as its dump, also if a relationship has a loose end. -/
theorem Fits.reads {store : Store} (fits : Fits store) :
    Snapshot.Reads Snapshot.decode (Snapshot.save store) store.dump := by
  have positions : ∀ cell, store.position cell < 2 ^ 32 := by
    intro cell
    have within : store.position cell ≤ store.nodes.indices.length := List.idxOf_le_length
    rw [Arena.length_indices] at within
    exact Nat.lt_of_le_of_lt within fits.nodes
  refine Snapshot.reads_dump fits.bytes ?_
  intro dumped member
  obtain ⟨edge, -, rfl⟩ := List.mem_map.mp member
  exact ⟨positions edge.source, positions edge.target⟩

/-- Every relationship leads from a live node to a live node. -/
def EndsLive (store : Store) : Prop :=
  ∀ cell edge, store.edges.get? cell = some edge →
    (store.node? edge.source).isSome = true ∧ (store.node? edge.target).isSome = true

theorem Sound.endsLive {store : Store} (sound : Sound store) : EndsLive store :=
  fun cell edge found => ⟨sound.sources cell edge found, sound.targets cell edge found⟩

/-- No position in the dump leads beyond the nodes. -/
theorem EndsLive.inside {store : Store} (live : EndsLive store) :
    ∀ edge ∈ store.dump.edges, edge.source < store.dump.nodes.length ∧
      edge.target < store.dump.nodes.length := by
  intro dumped member
  obtain ⟨edge, edgeMember, rfl⟩ := List.mem_map.mp member
  obtain ⟨cell, found⟩ := Arena.mem_toList.mp edgeMember
  have numbered : ∀ node, (store.node? node).isSome = true →
      store.position node < store.dump.nodes.length := by
    intro node here
    rw [position, dump, ← Arena.length_indices]
    exact List.idxOf_lt_length_of_mem (Arena.mem_indices.mpr here)
  exact ⟨numbered _ (live cell edge found).1, numbered _ (live cell edge found).2⟩

/-- What was saved is loaded with the same dump, whatever follows it. -/
theorem load_save {store : Store} (live : EndsLive store) (fits : Fits store) (path : String)
    (rest : List UInt8) :
    ∃ restored, Snapshot.load path (Snapshot.save store ++ rest) = .ok restored ∧
      restored.dump = store.dump := by
  obtain ⟨restored, restores, same⟩ := exists_ofDump? live.inside
  refine ⟨restored, ?_, same⟩
  rw [Snapshot.load, fits.reads rest]
  dsimp only
  rw [restores]

/-- What is loaded from a snapshot has its dump.  With a loose end nothing is loaded. -/
theorem dump_eq_of_load {store restored : Store} (fits : Fits store) {path : String}
    (loaded : Snapshot.load path (Snapshot.save store) = .ok restored) :
    restored.dump = store.dump := by
  have read := fits.reads []
  rw [List.append_nil] at read
  rw [Snapshot.load, read] at loaded
  dsimp only at loaded
  split at loaded
  · cases loaded
  next other restores =>
    cases loaded
    obtain ⟨again, same, dump⟩ := exists_ofDump? (inside_of_ofDump? restores)
    rw [restores] at same
    cases same
    exact dump

/-- The snapshot is at the path, nothing is left beside it, and all else is as before. -/
structure HasSaved (store : Store) (path : String) (disk written : Disk) : Prop where
  found : ∃ number, written.find? path = some (.file number (Snapshot.save store))
  saved : ∃ number, written.at? (disk.resolve path) = some (.file number (Snapshot.save store))
  others : ∀ asked, asked ≠ disk.resolve path →
    asked ≠ disk.resolve (Path.withExtension path "tmp") → written.at? asked = disk.at? asked
  locked : written.locked = disk.locked
  sound : written.Sound
  keeps : disk.KeepsDirectories written

theorem hasSaved_of_save {store : Store} {path : String} {disk written : Disk}
    (sound : disk.Sound) (saved : store.save path disk = (.ok (), written)) :
    HasSaved store path disk written := by
  unfold save at saved
  dsimp only at saved
  split at saved
  · cases saved
  next between writes =>
    split at saved
    · cases saved
    next renamed renames =>
      cases saved
      obtain ⟨before, number, beside, puts, -⟩ := sound.putsFile_of_write writes
      have betweenSound := puts.sound sound
      obtain ⟨source, location, moved, content, located, file, target, movedTo⟩ :=
        betweenSound.putsFile_of_rename renames
      have besideLocated := (Disk.fileLocation?_eq_some_iff.mp beside).1
      obtain ⟨targetLocated, named, -⟩ := Disk.fileLocation?_eq_some_iff.mp target
      -- what is renamed is the file that was written
      rw [Disk.locate?_of_keeps puts.keeps besideLocated] at located
      cases located
      rw [puts.at?_self] at file
      cases file
      have removed := betweenSound.keeps_remove_file puts.at?_self
      have keeps := puts.keeps.trans (removed.trans movedTo.keeps)
      have here : disk.resolve path = location := by
        rw [← puts.keeps.resolve path]
        exact Disk.resolve_of_locate? targetLocated
      have there : disk.resolve (Path.withExtension path "tmp") = before :=
        Disk.resolve_of_locate? besideLocated
      refine ⟨⟨number, ?_⟩, ⟨number, here ▸ movedTo.at?_self⟩, ?_, ?_, ?_, keeps⟩
      · have stillLocated := Disk.locate?_of_keeps (removed.trans movedTo.keeps) targetLocated
        exact Disk.find?_eq_file_iff.mpr ⟨named, location, stillLocated, movedTo.at?_self⟩
      · intro asked notHere notThere
        rw [here] at notHere
        rw [there] at notThere
        rw [movedTo.at?_of_ne notHere, betweenSound.at?_remove_file puts.at?_self,
          if_neg notThere, puts.at?_of_ne notThere]
      · exact movedTo.locked.trans puts.locked
      · exact movedTo.sound (betweenSound.remove_file puts.at?_self)

theorem load_of_hasSaved {store : Store} {path : String} {disk written : Disk}
    (saved : HasSaved store path disk written) (live : EndsLive store) (fits : Fits store) :
    ∃ restored, Store.load written path = .ok restored ∧ restored.dump = store.dump := by
  obtain ⟨number, found⟩ := saved.found
  obtain ⟨restored, loaded, same⟩ := load_save live fits path []
  rw [List.append_nil] at loaded
  refine ⟨restored, ?_, same⟩
  rw [Store.load, found]
  exact loaded

/-- A reachable store that was saved is loaded with the same dump.  Its counts are the same,
and saving it again writes the same bytes. -/
theorem Reachable.load_of_save {store : Store} (reachable : Reachable store) (fits : Fits store)
    {disk written : Disk} (sound : disk.Sound) {path : String}
    (saved : store.save path disk = (.ok (), written)) :
    ∃ restored, Store.load written path = .ok restored ∧ restored.dump = store.dump ∧
      restored.stats = store.stats ∧
      written.read? path = some (Snapshot.save restored) ∧
      ∀ again other, restored.save again other = store.save again other := by
  have hasSaved := hasSaved_of_save sound saved
  obtain ⟨restored, loaded, same⟩ :=
    load_of_hasSaved hasSaved reachable.sound.endsLive fits
  have bytes : Snapshot.save restored = Snapshot.save store := congrArg Snapshot.encode same
  obtain ⟨number, found⟩ := hasSaved.found
  refine ⟨restored, loaded, same, stats_eq_of_dump_eq same, ?_, ?_⟩
  · rw [Disk.read?, found, bytes]
  · intro again other
    unfold save
    rw [bytes]

/-- Parallel relationships, one from a node to itself, a nested list and a number that is not
a number. -/
def tangled : Store :=
  let nested : PropertyValue := .list [.null, .list [.float ⟨0x7FF8000000000001⟩, .text "é"]]
  let first := (empty.createNode "Method" OrderedMap.empty).2
  let second := (first.createNode "Type" (OrderedMap.ofList [("of", nested)])).2
  let third := (second.createNode "Type" (OrderedMap.ofList [("line", .int (-1))])).2
  let owned := (third.createEdge 0 2 "OWNS" OrderedMap.empty).2
  let around := (owned.createEdge 2 2 "CALLS" (OrderedMap.ofList [("weight", .bool true)])).2
  let once := (around.createEdge 2 1 "CALLS" OrderedMap.empty).2
  (once.createEdge 2 1 "CALLS" OrderedMap.empty).2

theorem reachable_tangled : Reachable tangled :=
  .step (.step (.step (.step (.step (.step (.step .empty (.createNode _ _ _))
    (.createNode _ _ _)) (.createNode _ _ _)) (.createEdge _ _ rfl rfl))
    (.createEdge _ _ rfl rfl)) (.createEdge _ _ rfl rfl)) (.createEdge _ _ rfl rfl)

/-- An empty cell is among the nodes, and one among the relationships. -/
def scattered : Store := (tangled.deleteNode 0 true).toOption.getD empty

theorem load_of_save_scattered : ∃ restored written,
    scattered.save "graph.bin" {} = (.ok (), written) ∧
      Store.load written "graph.bin" = .ok restored ∧ restored.dump = scattered.dump ∧
      restored.dump.edges.map (fun edge => (edge.source, edge.target)) =
        [(1, 1), (1, 0), (1, 0)] := by
  have deleted : tangled.deleteNode 0 true = .ok scattered := rfl
  have fits : Fits scattered := ⟨by decide +kernel, by decide +kernel⟩
  have sound : Disk.Sound {} := ⟨by simp [Disk.at?], by simp [Disk.at?], by simp⟩
  have saved : scattered.save "graph.bin" {} = (.ok (), (scattered.save "graph.bin" {}).2) := rfl
  obtain ⟨restored, loaded, same, -⟩ :=
    (reachable_tangled.step (.deleteNode deleted)).load_of_save fits sound saved
  exact ⟨restored, _, saved, loaded, same, same ▸ rfl⟩

end CodeGraph.Store
