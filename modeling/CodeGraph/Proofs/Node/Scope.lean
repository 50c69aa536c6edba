import CodeGraph.Proofs.Node.Walk

/-!
# Types and methods around a node

Around a node of a tree stands the nearest type above it, and the nearest method above it
unless a type comes nearer.
-/

namespace CodeGraph

namespace Kind

/-- The kinds of types that are declared with a name. -/
def isNamedType : Kind → Bool
  | typeDeclaration | enumDeclaration | annotationTypeDeclaration => true
  | _ => false

def isType (kind : Kind) : Bool := kind.isNamedType || kind == anonymousClassDeclaration

/-- Is a node of this kind the nearest type or method for the nodes below? -/
def opensScope (kind : Kind) : Bool := kind.isType || kind == methodDeclaration

def isCall : Kind → Bool
  | methodInvocation | superMethodInvocation | classInstanceCreation => true
  | _ => false

theorem isType_of_not_opensScope {kind : Kind} (closed : kind.opensScope = false) :
    kind.isType = false := (Bool.or_eq_false_iff.mp closed).1

theorem ne_method_of_not_opensScope {kind : Kind} (closed : kind.opensScope = false) :
    kind ≠ methodDeclaration := by
  rintro rfl
  cases closed

theorem opensScope_of_isCall {kind : Kind} (call : kind.isCall = true) :
    kind.opensScope = false := by
  cases kind <;> first | rfl | cases call

end Kind

namespace Node

/-- The nearest type among nodes that stand one below the other. -/
def nearestType? (above : List Node) : Option Node := above.reverse.find? (·.kind.isType)

/-- The nearest method below the nearest type. -/
def nearestMethod? (above : List Node) : Option Node :=
  (above.reverse.takeWhile (! ·.kind.isType)).find? (·.kind == .methodDeclaration)

theorem mem_of_nearestType? {above : List Node} {node : Node}
    (nearest : nearestType? above = some node) : node ∈ above ∧ node.kind.isType = true :=
  ⟨List.mem_reverse.mp (List.mem_of_find?_eq_some nearest), by simpa using List.find?_some nearest⟩

theorem mem_of_nearestMethod? {above : List Node} {node : Node}
    (nearest : nearestMethod? above = some node) :
    node ∈ above ∧ node.kind = .methodDeclaration :=
  ⟨List.mem_reverse.mp ((List.takeWhile_sublist _).subset (List.mem_of_find?_eq_some nearest)),
    by simpa using List.find?_some nearest⟩

theorem nearestType?_append_of_isType {node : Node} (isType : node.kind.isType = true)
    (above : List Node) : nearestType? (above ++ [node]) = some node := by
  rw [nearestType?, List.reverse_concat]
  exact List.find?_cons_of_pos isType

theorem nearestType?_append_of_not_isType {node : Node} (other : node.kind.isType = false)
    (above : List Node) : nearestType? (above ++ [node]) = nearestType? above := by
  rw [nearestType?, List.reverse_concat, List.find?_cons_of_neg (by simp [other])]
  rfl

theorem nearestMethod?_append_of_isType {node : Node} (isType : node.kind.isType = true)
    (above : List Node) : nearestMethod? (above ++ [node]) = none := by
  rw [nearestMethod?, List.reverse_concat, List.takeWhile_cons_of_neg (by simp [isType])]
  rfl

theorem nearestMethod?_append_of_method {node : Node} (method : node.kind = .methodDeclaration)
    (above : List Node) : nearestMethod? (above ++ [node]) = some node := by
  rw [nearestMethod?, List.reverse_concat, List.takeWhile_cons_of_pos (by rw [method]; rfl),
    List.find?_cons_of_pos (by rw [method]; rfl)]

theorem nearestMethod?_append_of_other {node : Node} (closed : node.kind.opensScope = false)
    (above : List Node) : nearestMethod? (above ++ [node]) = nearestMethod? above := by
  have other := Kind.isType_of_not_opensScope closed
  have different := Kind.ne_method_of_not_opensScope closed
  rw [nearestMethod?, List.reverse_concat, List.takeWhile_cons_of_pos (by simp [other]),
    List.find?_cons_of_neg (by simpa using different)]
  rfl

/-! ### Nodes without a type in between -/

/-- What stands above a tree stands above all of its nodes. -/
theorem occurrencesBelow_eq_map (above : List Node) (tree : Node) :
    tree.occurrencesBelow above =
      tree.occurrences.map fun occurrence =>
        ⟨above ++ occurrence.ancestors, occurrence.node⟩ := by
  suffices within : ∀ inner, tree.occurrencesBelow (above ++ inner) =
      (tree.occurrencesBelow inner).map fun occurrence =>
        ⟨above ++ occurrence.ancestors, occurrence.node⟩ by
    have outside := within []
    rwa [List.append_nil] at outside
  induction tree using Node.induction with
  | step tree induction =>
      intro inner
      rw [occurrencesBelow_eq, occurrencesBelow_eq, List.map_cons, List.map_flatMap]
      congr 1
      refine List.flatMap_congr fun child member => ?_
      rw [List.append_assoc]
      exact induction child member (inner ++ [tree])

/-- The nodes of several trees that stand below no type in these trees, in preorder. -/
def topmost (trees : List Node) : List Node :=
  ((trees.flatMap occurrences).filter fun occurrence =>
    (nearestType? occurrence.ancestors).isNone).map (·.node)

/-- The nodes below a node without a type in between, in preorder. -/
def own (node : Node) : List Node := topmost node.children

theorem topmost_append (first second : List Node) :
    topmost (first ++ second) = topmost first ++ topmost second := by
  rw [topmost, List.flatMap_append, List.filter_append, List.map_append]
  rfl

theorem nearestType?_append (above below : List Node) :
    nearestType? (above ++ below) = (nearestType? below).or (nearestType? above) := by
  rw [nearestType?, List.reverse_append, List.find?_append]
  rfl

theorem nearestType?_singleton (node : Node) :
    nearestType? [node] = if node.kind.isType then some node else none :=
  List.find?_singleton

theorem topmost_singleton (node : Node) :
    topmost [node] = node :: if node.kind.isType then [] else node.own := by
  have below : node.children.flatMap (occurrencesBelow [node]) =
      (node.children.flatMap occurrences).map fun occurrence =>
        ⟨node :: occurrence.ancestors, occurrence.node⟩ := by
    rw [List.map_flatMap]
    exact List.flatMap_congr fun child _ => occurrencesBelow_eq_map [node] child
  rw [own, topmost, topmost, List.flatMap_singleton, occurrences, occurrencesBelow_eq,
    List.nil_append, below, List.filter_cons_of_pos rfl, List.map_cons, List.filter_map,
    List.map_map]
  congr 1
  have onePlus (occurrence : Occurrence) : nearestType? (node :: occurrence.ancestors) =
      (nearestType? occurrence.ancestors).or (if node.kind.isType then some node else none) := by
    rw [← List.singleton_append, nearestType?_append, nearestType?_singleton]
  cases isType : node.kind.isType <;> simp [Function.comp_def, onePlus, isType]

/-- All of a tree that stands in another one is in that other one, in the same order. -/
theorem occurrencesBelow_sublist {tree : Node} {above : List Node} {outer : Occurrence}
    (member : outer ∈ tree.occurrencesBelow above) :
    (outer.node.occurrencesBelow outer.ancestors).Sublist (tree.occurrencesBelow above) := by
  induction tree using Node.induction generalizing above with
  | step tree induction =>
      have whole := member
      rw [occurrencesBelow_eq] at member
      rcases List.mem_cons.mp member with rfl | below
      · exact List.Sublist.refl _
      · obtain ⟨child, isChild, inside⟩ := List.mem_flatMap.mp below
        have inChildren : (child.occurrencesBelow (above ++ [tree])).Sublist
            (tree.children.flatMap (occurrencesBelow (above ++ [tree]))) :=
          List.sublist_flatten_of_mem (List.mem_map_of_mem isChild)
        rw [occurrencesBelow_eq above tree]
        exact ((induction child isChild inside).trans inChildren).cons _

/-- A node without a type in between has the node above as its nearest type, if that is one. -/
theorem exists_occurrence_of_mem_own {tree : Node} {outer : Occurrence}
    (member : outer ∈ tree.occurrences) {node : Node} (isOwn : node ∈ outer.node.own) :
    ∃ occurrence ∈ tree.occurrences, occurrence.node = node ∧
      nearestType? occurrence.ancestors = nearestType? (outer.ancestors ++ [outer.node]) := by
  obtain ⟨inner, isInner, rfl⟩ := List.mem_map.mp isOwn
  obtain ⟨isBelow, free⟩ := List.mem_filter.mp isInner
  obtain ⟨child, isChild, inside⟩ := List.mem_flatMap.mp isBelow
  let above := outer.ancestors ++ [outer.node]
  have among := (occurrencesBelow_sublist member).subset
  refine ⟨⟨above ++ inner.ancestors, inner.node⟩, among ?_, rfl, ?_⟩
  · rw [occurrencesBelow_eq]
    refine List.mem_cons_of_mem _ (List.mem_flatMap.mpr ⟨child, isChild, ?_⟩)
    rw [occurrencesBelow_eq_map]
    exact List.mem_map_of_mem inside
  · rw [nearestType?_append, Option.isNone_iff_eq_none.mp free, Option.none_or]

end Node

namespace Occurrence

/-- The full name of the nearest type above a node. -/
def typeName? (occurrence : Occurrence) : Option String :=
  (Node.nearestType? occurrence.ancestors).bind (·.qualifiedName)

/-- The full name of the nearest method above a node, if no type comes nearer. -/
def methodName? (occurrence : Occurrence) : Option String :=
  (Node.nearestMethod? occurrence.ancestors).bind (·.qualifiedName)

end Occurrence

end CodeGraph
