import CodeGraph.Proofs.Store.Cells

/-!
# What happens to a node or a relationship

Every operation on a store is described by what becomes of each single node and each single
relationship: creating touches none of those that are there, setting properties touches one,
and deleting a node takes the relationships at it along.
-/

namespace CodeGraph

/-- A node or a relationship of a store, by its cell. -/
inductive Entity where
  | node (cell : Nat)
  | edge (cell : Nat)
deriving DecidableEq, Repr

namespace Store

variable {store after : Store}

def entity? (store : Store) : Entity → Option (StoredNode ⊕ StoredEdge)
  | .node cell => (store.node? cell).map .inl
  | .edge cell => (store.edges.get? cell).map .inr

def IsLive (store : Store) (entity : Entity) : Prop :=
  (store.entity? entity).isSome = true

/-- Does the relationship start at the node or lead to it? -/
def Attached (store : Store) (cell : Nat) : Entity → Prop
  | .node _ => False
  | .edge place => ∃ edge, store.edges.get? place = some edge ∧
      (edge.source = cell ∨ edge.target = cell)

@[simp] theorem isLive_node (cell : Nat) :
    store.IsLive (.node cell) ↔ (store.node? cell).isSome = true := by
  simp [IsLive, entity?]

@[simp] theorem isLive_edge (cell : Nat) :
    store.IsLive (.edge cell) ↔ (store.edges.get? cell).isSome = true := by
  simp [IsLive, entity?]

/-! ## Creating -/

/-- What is there stays as it is. -/
def Extends (before after : Store) : Prop :=
  ∀ entity content, before.entity? entity = some content → after.entity? entity = some content

theorem Extends.refl (store : Store) : Extends store store := fun _ _ live => live

theorem Extends.trans {first second third : Store} (start : Extends first second)
    (rest : Extends second third) : Extends first third :=
  fun entity content live => rest entity content (start entity content live)

theorem Extends.isLive (grown : Extends store after) {entity : Entity}
    (live : store.IsLive entity) : after.IsLive entity := by
  obtain ⟨content, found⟩ := Option.isSome_iff_exists.mp live
  exact Option.isSome_iff_exists.mpr ⟨content, grown entity content found⟩

theorem extends_createNode (store : Store) (label : String) (properties : Properties) :
    Extends store (store.createNode label properties).2 := by
  intro entity content live
  cases entity with
  | node cell =>
      obtain ⟨node, found, rfl⟩ := Option.map_eq_some_iff.mp live
      exact Option.map_eq_some_iff.mpr
        ⟨node, node?_createNode_of_node? label properties found, rfl⟩
  | edge cell => exact live

theorem extends_mergeNode (store : Store) (label : String) (properties : Properties) :
    Extends store (store.mergeNode label properties).2 := by
  unfold mergeNode
  split
  · exact Extends.refl store
  · exact extends_createNode store label properties

theorem extends_createEdge (store : Store) (source target : Nat) (type : String)
    (properties : Properties) :
    Extends store (store.createEdge source target type properties).2 := by
  intro entity content live
  cases entity with
  | node cell => exact live
  | edge cell =>
      obtain ⟨edge, found, rfl⟩ := Option.map_eq_some_iff.mp live
      exact Option.map_eq_some_iff.mpr ⟨edge, Arena.get?_insert_of_get? _ found, rfl⟩

theorem extends_mergeEdge (store : Store) (source target : Nat) (type : String)
    (properties : Properties) :
    Extends store (store.mergeEdge source target type properties).2 := by
  unfold mergeEdge
  split
  · exact Extends.refl store
  · exact extends_createEdge store source target type properties

theorem isLive_createNode (store : Store) (label : String) (properties : Properties) :
    (store.createNode label properties).2.IsLive
      (.node (store.createNode label properties).1) := by
  have here : (store.createNode label properties).2.node?
      (store.createNode label properties).1 = some ⟨label, properties⟩ := by
    rw [node?_createNode]
    exact if_pos rfl
  simp [here]

theorem isLive_mergeNode (store : Store) (label : String) (properties : Properties) :
    (store.mergeNode label properties).2.IsLive
      (.node (store.mergeNode label properties).1) := by
  unfold mergeNode
  split
  next cell found =>
    obtain ⟨node, live, -⟩ := mem_matchNodes.mp (mem_matchNodes_of_findNode? found)
    simp [live]
  next => exact isLive_createNode store label properties

theorem isLive_createEdge (store : Store) (source target : Nat) (type : String)
    (properties : Properties) :
    (store.createEdge source target type properties).2.IsLive
      (.edge (store.createEdge source target type properties).1) := by
  have here : (store.createEdge source target type properties).2.edges.get?
      (store.createEdge source target type properties).1 =
        some ⟨source, target, type, properties⟩ := by
    rw [get?_createEdge]
    exact if_pos rfl
  simp [here]

theorem isLive_mergeEdge (store : Store) (source target : Nat) (type : String)
    (properties : Properties) :
    (store.mergeEdge source target type properties).2.IsLive
      (.edge (store.mergeEdge source target type properties).1) := by
  unfold mergeEdge
  split
  next cell found =>
    rw [isLive_edge]
    exact isSome_of_mem_edgesWhere (List.mem_of_head? found)
  next => exact isLive_createEdge store source target type properties

/-! ## Setting properties -/

/-- Other things than those acted on stay as they are, and nothing comes or goes. -/
structure Rewrites (acted : Entity → Prop) (before after : Store) : Prop where
  isLive : ∀ entity, after.IsLive entity ↔ before.IsLive entity
  others : ∀ entity, ¬acted entity → after.entity? entity = before.entity? entity

namespace Rewrites

variable {acted : Entity → Prop}

theorem refl (store : Store) : Rewrites acted store store :=
  ⟨fun _ => Iff.rfl, fun _ _ => rfl⟩

theorem trans {first second third : Store} (start : Rewrites acted first second)
    (rest : Rewrites acted second third) : Rewrites acted first third where
  isLive := fun entity => (rest.isLive entity).trans (start.isLive entity)
  others := fun entity untouched =>
    (rest.others entity untouched).trans (start.others entity untouched)

theorem setNode (store : Store) {cell : Nat} (changes : Properties)
    (allowed : acted (.node cell)) : Rewrites acted store (store.setNode cell changes) where
  isLive := by
    intro entity
    cases entity with
    | node other =>
        rw [isLive_node, isLive_node, node?_setNode]
        split
        · rw [Option.isSome_map]
        · rfl
    | edge other => rw [isLive_edge, isLive_edge, edges_setNode]
  others := by
    intro entity untouched
    cases entity with
    | node other =>
        have different : other ≠ cell := by
          rintro rfl
          exact untouched allowed
        rw [entity?, entity?, node?_setNode, if_neg different]
    | edge other => rw [entity?, entity?, edges_setNode]

theorem setNodes (store : Store) {cells : List Nat} (changes : Properties)
    (allowed : ∀ cell ∈ cells, acted (.node cell)) :
    Rewrites acted store
      (cells.foldl (fun store cell => store.setNode cell changes) store) := by
  induction cells generalizing store with
  | nil => exact refl store
  | cons cell cells induction =>
      obtain ⟨here, later⟩ := List.forall_mem_cons.mp allowed
      exact (setNode store changes here).trans (induction _ later)

theorem setEdge (store : Store) {cell : Nat} (changes : Properties)
    (allowed : acted (.edge cell)) : Rewrites acted store (store.setEdge cell changes) where
  isLive := by
    intro entity
    cases entity with
    | node other => rfl
    | edge other =>
        rw [isLive_edge, isLive_edge, get?_setEdge]
        split
        · rw [Option.isSome_map]
        · rfl
  others := by
    intro entity untouched
    cases entity with
    | node other => rfl
    | edge other =>
        have different : other ≠ cell := by
          rintro rfl
          exact untouched allowed
        rw [entity?, entity?, get?_setEdge, if_neg different]

end Rewrites

/-! ## Deleting -/

/-- Some of the things acted on are gone, and all else is as it was. -/
def Removes (acted : Entity → Prop) (before after : Store) : Prop :=
  ∀ entity, after.entity? entity = before.entity? entity ∨
    (acted entity ∧ after.entity? entity = none)

namespace Removes

variable {acted : Entity → Prop}

theorem refl (store : Store) : Removes acted store store := fun _ => .inl rfl

theorem isLive (removes : Removes acted store after) {entity : Entity}
    (live : after.IsLive entity) : store.IsLive entity := by
  rcases removes entity with same | ⟨-, gone⟩
  · rw [IsLive, ← same]
    exact live
  · simp [IsLive, gone] at live

theorem trans {first second third : Store} (start : Removes acted first second)
    (rest : Removes acted second third) : Removes acted first third := by
  intro entity
  rcases rest entity with same | gone
  · rw [same]
    exact start entity
  · exact .inr gone

/-- A relationship that is left has its ends where they were. -/
theorem attached (removes : Removes acted store after) {cell : Nat} {entity : Entity}
    (attached : after.Attached cell entity) : store.Attached cell entity := by
  cases entity with
  | node other => exact attached
  | edge place =>
      obtain ⟨edge, found, ends⟩ := attached
      have live : after.entity? (.edge place) = some (.inr edge) := by
        rw [entity?, found, Option.map_some]
      rcases removes (.edge place) with same | ⟨-, gone⟩
      · rw [same, entity?, Option.map_eq_some_iff] at live
        obtain ⟨before, beforeFound, equal⟩ := live
        cases equal
        exact ⟨edge, beforeFound, ends⟩
      · rw [gone] at live
        cases live

theorem deleteEdges (store : Store) {cells : List Nat}
    (allowed : ∀ cell ∈ cells, acted (.edge cell)) :
    Removes acted store (cells.foldl Store.deleteEdge store) := by
  intro entity
  cases entity with
  | node cell => exact .inl (by rw [entity?, entity?, node?, nodes_deleteEdges, node?])
  | edge cell =>
      rw [entity?, get?_deleteEdges]
      split
      next member => exact .inr ⟨allowed cell member, rfl⟩
      next => exact .inl rfl

theorem deleteEdge (store : Store) {cell : Nat} (allowed : acted (.edge cell)) :
    Removes acted store (store.deleteEdge cell) := by
  have only : ∀ other ∈ [cell], acted (.edge other) := by simpa using allowed
  exact deleteEdges store only

theorem attached_of_mem_edgesWhere {test : StoredEdge → Bool} {cell place : Nat}
    (ends : ∀ edge, test edge = true → edge.source = cell ∨ edge.target = cell)
    (member : place ∈ store.edgesWhere test) : store.Attached cell (.edge place) := by
  have holds := (List.mem_filter.mp member).2
  obtain ⟨edge, found, tested⟩ := (Option.any_eq_true _ _).mp holds
  exact ⟨edge, found, ends edge tested⟩

theorem isolate (store : Store) {cell : Nat}
    (allowed : ∀ entity, store.Attached cell entity → acted entity) :
    Removes acted store (store.isolate cell) := by
  have leaving : Removes acted store ((store.outgoing cell).foldl Store.deleteEdge store) := by
    apply deleteEdges
    intro place member
    apply allowed
    exact attached_of_mem_edgesWhere (fun edge starts => .inl (by simpa using starts)) member
  apply leaving.trans
  apply deleteEdges
  intro place member
  apply allowed
  apply leaving.attached
  exact attached_of_mem_edgesWhere (fun edge leads => .inr (by simpa using leads)) member

theorem deleteNode {cell : Nat} {detach : Bool} (allowed : acted (.node cell))
    (allowedEdges : ∀ entity, store.Attached cell entity → acted entity)
    (deleted : store.deleteNode cell detach = .ok after) : Removes acted store after := by
  cases live : store.node? cell with
  | none =>
      simp only [Store.deleteNode, live] at deleted
      cases deleted
      exact refl store
  | some node =>
      rw [deleteNode_of_node? detach live] at deleted
      split at deleted
      · cases deleted
      · cases deleted
        apply (isolate store allowedEdges).trans
        intro entity
        cases entity with
        | node other =>
            rw [entity?, node?, Arena.get?_erase]
            split
            next here => exact .inr ⟨here ▸ allowed, rfl⟩
            next => exact .inl rfl
        | edge other => exact .inl rfl

end Removes

end Store

end CodeGraph
