import CodeGraph.Proofs.Node.Scope

/-!
# The types in a tree

The types of a tree stand in each other.  Below a node come its own types, those without a type
in between, and below each of these come its own types in turn.
-/

namespace CodeGraph.Node

/-- The types in a tree, in preorder. -/
def types (tree : Node) : List Node :=
  (tree.occurrences.filter (·.node.kind.isType)).map (·.node)

/-- The types below a node, in preorder. -/
def innerTypes (node : Node) : List Node := node.children.flatMap types

/-- The types below a node without a type in between, in preorder. -/
def ownTypes (node : Node) : List Node := node.own.filter (·.kind.isType)

theorem types_occurrencesBelow (tree : Node) (above : List Node) :
    ((tree.occurrencesBelow above).filter (·.node.kind.isType)).map (·.node) = tree.types := by
  rw [occurrencesBelow_eq_map, List.filter_map, List.map_map]
  rfl

theorem types_eq (tree : Node) :
    tree.types = (if tree.kind.isType then [tree] else []) ++ tree.innerTypes := by
  have below : ((tree.children.flatMap (occurrencesBelow [tree])).filter
      (·.node.kind.isType)).map (·.node) = tree.innerTypes := by
    rw [List.filter_flatMap, List.map_flatMap]
    exact List.flatMap_congr fun child _ => types_occurrencesBelow child [tree]
  rw [types, occurrences, occurrencesBelow_eq, List.nil_append, ← below, List.filter_cons]
  cases tree.kind.isType <;> rfl

theorem topmost_eq_flatMap (trees : List Node) :
    topmost trees = trees.flatMap fun tree => topmost [tree] := by
  induction trees with
  | nil => rfl
  | cons tree trees induction =>
      rw [← List.singleton_append, topmost_append, induction, List.singleton_append,
        List.flatMap_cons]

theorem ownTypes_eq (node : Node) :
    node.ownTypes =
      node.children.flatMap fun child => if child.kind.isType then [child] else child.ownTypes := by
  rw [ownTypes, own, topmost_eq_flatMap, List.filter_flatMap]
  refine List.flatMap_congr fun child _ => ?_
  rw [topmost_singleton, List.filter_cons]
  cases child.kind.isType <;> rfl

theorem isType_of_mem_ownTypes {node type : Node} (member : type ∈ node.ownTypes) :
    type.kind.isType = true := (List.mem_filter.mp member).2

theorem innerTypes_eq (node : Node) :
    node.innerTypes = node.ownTypes.flatMap fun type => type :: type.innerTypes := by
  induction node using Node.induction with
  | step node induction =>
      rw [innerTypes, ownTypes_eq, List.flatMap_assoc]
      refine List.flatMap_congr fun child isChild => ?_
      rw [types_eq, induction child isChild]
      cases child.kind.isType with
      | true => simp [induction child isChild]
      | false => rfl

/-- What holds of a node if it holds of its own types holds of every node. -/
@[elab_as_elim] theorem ownTypes_induction {motive : Node → Prop}
    (step : ∀ node, (∀ type ∈ node.ownTypes, motive type) → motive node) (node : Node) :
    motive node := by
  suffices both : motive node ∧ ∀ type ∈ node.ownTypes, motive type from both.1
  induction node using Node.induction with
  | step node induction =>
      have inside : ∀ type ∈ node.ownTypes, motive type := by
        intro type member
        rw [ownTypes_eq] at member
        obtain ⟨child, isChild, within⟩ := List.mem_flatMap.mp member
        obtain ⟨here, below⟩ := induction child isChild
        split at within
        · cases List.mem_singleton.mp within
          exact here
        · exact below type within
      exact ⟨step node inside, inside⟩

theorem isType_of_mem_types {tree type : Node} (member : type ∈ tree.types) :
    type.kind.isType = true := by
  obtain ⟨occurrence, isThere, rfl⟩ := List.mem_map.mp member
  exact (List.mem_filter.mp isThere).2

/-- The node around an own type is its nearest type, if it is one. -/
theorem exists_occurrence_of_mem_ownTypes {tree outer type : Node}
    (around : outer ∈ tree :: tree.types) (member : type ∈ outer.ownTypes) :
    ∃ occurrence ∈ tree.occurrences, occurrence.node = type ∧
      nearestType? occurrence.ancestors = if outer.kind.isType then some outer else none := by
  obtain ⟨isOwn, -⟩ := List.mem_filter.mp member
  rcases List.mem_cons.mp around with rfl | inside
  · have atTop : ⟨[], outer⟩ ∈ outer.occurrences := by
      rw [occurrences, occurrencesBelow_eq]
      exact List.mem_cons_self
    obtain ⟨occurrence, isThere, same, nearest⟩ := exists_occurrence_of_mem_own atTop isOwn
    exact ⟨occurrence, isThere, same, nearest.trans (nearestType?_singleton outer)⟩
  · obtain ⟨place, isPlace, rfl⟩ := List.mem_map.mp inside
    obtain ⟨isThere, isType⟩ := List.mem_filter.mp isPlace
    obtain ⟨occurrence, found, same, nearest⟩ := exists_occurrence_of_mem_own isThere isOwn
    refine ⟨occurrence, found, same, nearest.trans ?_⟩
    rw [nearestType?_append_of_isType isType, if_pos isType]

theorem mem_types_of_mem_ownTypes {tree outer type : Node} (around : outer ∈ tree :: tree.types)
    (member : type ∈ outer.ownTypes) : type ∈ tree.types := by
  obtain ⟨occurrence, isThere, rfl, -⟩ := exists_occurrence_of_mem_ownTypes around member
  exact List.mem_map_of_mem (List.mem_filter.mpr ⟨isThere, isType_of_mem_ownTypes member⟩)

/-- The types below a tree or a type in it are types in the tree, in the same order. -/
theorem innerTypes_sublist {tree outer : Node} (around : outer ∈ tree :: tree.types) :
    outer.innerTypes.Sublist tree.types := by
  have whole (node : Node) : node.innerTypes.Sublist node.types := by
    rw [types_eq]
    exact List.sublist_append_right ..
  rcases List.mem_cons.mp around with rfl | inside
  · exact whole outer
  · obtain ⟨place, isPlace, rfl⟩ := List.mem_map.mp inside
    have part := occurrencesBelow_sublist (List.mem_filter.mp isPlace).1
    refine (whole place.node).trans ?_
    rw [← types_occurrencesBelow place.node place.ancestors]
    exact (part.filter _).map _

theorem ownTypes_sublist (node : Node) : node.ownTypes.Sublist node.innerTypes := by
  rw [innerTypes_eq]
  induction node.ownTypes with
  | nil => exact List.Sublist.refl _
  | cons type types induction =>
      rw [List.flatMap_cons, List.cons_append]
      exact (induction.trans (List.sublist_append_right ..)).cons_cons type

/-! ## Types inside of types -/

/-- The node is the outer one, or a type below it. -/
inductive Inside (outer : Node) : Node → Prop where
  | self : Inside outer outer
  | deeper {type inner : Node} : Inside outer type → inner ∈ type.ownTypes → Inside outer inner

theorem Inside.trans {outer type inner : Node} (first : outer.Inside type)
    (second : type.Inside inner) : outer.Inside inner := by
  induction second with
  | self => exact first
  | deeper _ isOwn induction => exact induction.deeper isOwn

theorem inside_of_mem {outer inner : Node} (member : inner ∈ outer :: outer.innerTypes) :
    outer.Inside inner := by
  induction outer using ownTypes_induction with
  | step outer induction =>
      rcases List.mem_cons.mp member with rfl | below
      · exact .self
      · rw [innerTypes_eq] at below
        obtain ⟨type, isOwn, within⟩ := List.mem_flatMap.mp below
        exact (Inside.self.deeper isOwn).trans (induction type isOwn within)

theorem Inside.mem_types {tree outer inner : Node} (inside : outer.Inside inner)
    (around : outer ∈ tree :: tree.types) : inner ∈ tree :: tree.types := by
  induction inside with
  | self => exact around
  | deeper _ isOwn induction =>
      exact List.mem_cons_of_mem _ (mem_types_of_mem_ownTypes induction isOwn)

end CodeGraph.Node
