import CodeGraph.Proofs.Arena
import CodeGraph.Store

/-!
# The cells of a store after an operation

What each operation on a store does to the node in every cell.  Operations on
relationships leave the nodes and the index alone, and operations on nodes leave the
relationships alone.
-/

namespace CodeGraph.Store

theorem node?_createNode (store : Store) (label : String) (properties : Properties)
    (cell : Nat) :
    (store.createNode label properties).2.node? cell =
      if cell = store.nodes.next then some ⟨label, properties⟩ else store.node? cell :=
  Arena.get?_insert store.nodes ⟨label, properties⟩ cell

/-- A node stays in its cell when another one is created. -/
theorem node?_createNode_of_node? {store : Store} {cell : Nat} {node : StoredNode}
    (label : String) (properties : Properties) (found : store.node? cell = some node) :
    (store.createNode label properties).2.node? cell = some node := by
  change (store.nodes.insert ⟨label, properties⟩).get? cell = some node
  exact Arena.get?_insert_of_get? _ found

theorem node?_setNode (store : Store) (changed : Nat) (changes : Properties) (cell : Nat) :
    (store.setNode changed changes).node? cell =
      if cell = changed then
        (store.node? cell).map fun node =>
          { node with properties := Properties.overlay node.properties changes }
      else store.node? cell := by
  unfold setNode
  split
  next vacant =>
    split
    next same => rw [same, vacant, Option.map_none]
    next => rfl
  next node live =>
    simp only [node?, Arena.get?_modify]
    split
    next same =>
      have here : store.nodes.get? cell = some node := by rw [same]; exact live
      rw [here]
      rfl
    next => rfl

@[simp] theorem edges_createNode (store : Store) (label : String)
    (properties : Properties) :
    (store.createNode label properties).2.edges = store.edges := rfl

theorem edges_mergeNode (store : Store) (label : String) (properties : Properties) :
    (store.mergeNode label properties).2.edges = store.edges := by
  unfold mergeNode
  split <;> rfl

@[simp] theorem recent_createNode (store : Store) (label : String)
    (properties : Properties) :
    (store.createNode label properties).2.recent = store.recent := rfl

@[simp] theorem edges_setNode (store : Store) (cell : Nat) (changes : Properties) :
    (store.setNode cell changes).edges = store.edges := by
  unfold setNode
  split <;> rfl

@[simp] theorem recent_setNode (store : Store) (cell : Nat) (changes : Properties) :
    (store.setNode cell changes).recent = store.recent := by
  unfold setNode
  split <;> rfl

@[simp] theorem node?_createEdge (store : Store) (source target : Nat) (type : String)
    (properties : Properties) :
    (store.createEdge source target type properties).2.node? = store.node? := rfl

theorem get?_createEdge (store : Store) (source target : Nat) (type : String)
    (properties : Properties) (cell : Nat) :
    (store.createEdge source target type properties).2.edges.get? cell =
      if cell = store.edges.next then some ⟨source, target, type, properties⟩
      else store.edges.get? cell :=
  Arena.get?_insert store.edges ⟨source, target, type, properties⟩ cell

/-- A relationship that is there after a creation was there before, or joins the nodes. -/
theorem of_get?_createEdge {store : Store} {source target cell : Nat} {type : String}
    {properties : Properties} {edge : StoredEdge}
    (found : (store.createEdge source target type properties).2.edges.get? cell = some edge) :
    store.edges.get? cell = some edge ∨ edge.source = source ∧ edge.target = target := by
  rw [get?_createEdge] at found
  split at found
  · cases found
    exact .inr ⟨rfl, rfl⟩
  · exact .inl found

theorem of_get?_mergeEdge {store : Store} {source target cell : Nat} {type : String}
    {properties : Properties} {edge : StoredEdge}
    (found : (store.mergeEdge source target type properties).2.edges.get? cell = some edge) :
    store.edges.get? cell = some edge ∨ edge.source = source ∧ edge.target = target := by
  unfold mergeEdge at found
  split at found
  · exact .inl found
  · exact of_get?_createEdge found

@[simp] theorem node?_setEdge (store : Store) (cell : Nat) (changes : Properties) :
    (store.setEdge cell changes).node? = store.node? := rfl

@[simp] theorem index_setEdge (store : Store) (cell : Nat) (changes : Properties) :
    (store.setEdge cell changes).index = store.index := rfl

theorem get?_setEdge (store : Store) (changed : Nat) (changes : Properties) (cell : Nat) :
    (store.setEdge changed changes).edges.get? cell =
      if cell = changed then
        (store.edges.get? cell).map fun edge =>
          { edge with properties := Properties.overlay edge.properties changes }
      else store.edges.get? cell :=
  Arena.get?_modify store.edges changed cell _

/-- Setting properties of a relationship moves neither end. -/
theorem of_get?_setEdge {store : Store} {changed cell : Nat} {changes : Properties}
    {edge : StoredEdge} (found : (store.setEdge changed changes).edges.get? cell = some edge) :
    ∃ before, store.edges.get? cell = some before ∧ edge.source = before.source ∧
      edge.target = before.target ∧ edge.type = before.type := by
  rw [get?_setEdge] at found
  split at found
  · obtain ⟨before, beforeFound, rfl⟩ := Option.map_eq_some_iff.mp found
    exact ⟨before, beforeFound, rfl, rfl, rfl⟩
  · exact ⟨edge, found, rfl, rfl, rfl⟩

@[simp] theorem node?_deleteEdge (store : Store) (cell : Nat) :
    (store.deleteEdge cell).node? = store.node? := rfl

/-! ## Searching -/

theorem mem_matchNodes {store : Store} {label : Option String} {properties : Properties}
    {cell : Nat} :
    cell ∈ store.matchNodes label properties ↔
      ∃ node, store.node? cell = some node ∧
        node.matchesPattern label properties = true := by
  rw [matchNodes, List.mem_filter, Arena.mem_indices]
  cases live : store.node? cell with
  | none => simp
  | some node =>
      have inUse : store.nodes.get? cell = some node := live
      simp [inUse]

theorem isSome_of_mem_edgesWhere {store : Store} {test : StoredEdge → Bool} {cell : Nat}
    (member : cell ∈ store.edgesWhere test) : (store.edges.get? cell).isSome = true := by
  have holds := (List.mem_filter.mp member).2
  obtain ⟨edge, found, -⟩ := (Option.any_eq_true _ _).mp holds
  rw [found]
  rfl

theorem mem_matchNodes_of_findNode? {store : Store} {label : String} {properties : Properties}
    {cell : Nat} (found : store.findNode? label properties = some cell) :
    cell ∈ store.matchNodes (some label) properties := by
  unfold findNode? at found
  split at found
  next key keyed =>
    split at found
    next indexed =>
      split at found
      next node live =>
        split at found
        next fits =>
          cases found
          exact mem_matchNodes.mpr ⟨node, live, fits⟩
        next => cases found
      next => cases found
    next => cases found
  next unkeyed => exact List.mem_of_head? found

/-! ## Deleting several relationships -/

@[simp] theorem nodes_deleteEdges (cells : List Nat) (store : Store) :
    (cells.foldl deleteEdge store).nodes = store.nodes := by
  induction cells generalizing store with
  | nil => rfl
  | cons cell cells induction => exact induction (store.deleteEdge cell)

@[simp] theorem index_deleteEdges (cells : List Nat) (store : Store) :
    (cells.foldl deleteEdge store).index = store.index := by
  induction cells generalizing store with
  | nil => rfl
  | cons cell cells induction => exact induction (store.deleteEdge cell)

theorem get?_deleteEdges (cells : List Nat) (store : Store) (cell : Nat) :
    (cells.foldl deleteEdge store).edges.get? cell =
      if cell ∈ cells then none else store.edges.get? cell := by
  induction cells generalizing store with
  | nil => simp
  | cons first cells induction =>
      rw [List.foldl_cons, induction]
      simp only [deleteEdge, Arena.get?_erase, List.mem_cons]
      by_cases same : cell = first
      · simp [same]
      · simp [same]

/-- The store without the relationships at a node. -/
def isolate (store : Store) (cell : Nat) : Store :=
  let leaving := (store.outgoing cell).foldl deleteEdge store
  (leaving.incoming cell).foldl deleteEdge leaving

@[simp] theorem nodes_isolate (store : Store) (cell : Nat) :
    (store.isolate cell).nodes = store.nodes := by
  simp [isolate]

@[simp] theorem index_isolate (store : Store) (cell : Nat) :
    (store.isolate cell).index = store.index := by
  simp [isolate]

/-- Deleting a live node either fails or isolates it and empties its cell. -/
theorem deleteNode_of_node? {store : Store} {cell : Nat} {node : StoredNode}
    (detach : Bool) (live : store.node? cell = some node) :
    store.deleteNode cell detach =
      if 0 < store.degree cell && !detach then
        .error (.unsupportedStatement "DELETE"
          (.stillConnected node.label (store.degree cell)))
      else
        .ok { store.isolate cell with
          nodes := (store.isolate cell).nodes.erase cell
          index := releaseKey (store.isolate cell).index node.key? cell } := by
  unfold deleteNode
  rw [live]
  rfl

/-- Only a plain deletion of a live node fails, because of the relationships at the node. -/
theorem exists_of_deleteNode_eq_error {store : Store} {cell : Nat} {detach : Bool}
    {failure : Failure} (failed : store.deleteNode cell detach = .error failure) :
    detach = false ∧ ∃ node, store.node? cell = some node ∧ 0 < store.degree cell ∧
      failure = .unsupportedStatement "DELETE"
        (.stillConnected node.label (store.degree cell)) := by
  cases live : store.node? cell with
  | none =>
      rw [deleteNode, live] at failed
      cases failed
  | some node =>
      rw [deleteNode_of_node? detach live] at failed
      split at failed
      next connected =>
        cases failed
        simp only [Bool.and_eq_true, decide_eq_true_eq, Bool.not_eq_true'] at connected
        exact ⟨connected.2, node, rfl, connected.1, rfl⟩
      next => cases failed

end CodeGraph.Store
