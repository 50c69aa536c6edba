import CodeGraph.Proofs.Store.Development

/-!
# Isomorphic stores

Two stores hold the same graph up to the numbers of cells when one can be renumbered into the
other.  Stores that have come out of the same one and show the same picture are isomorphic, and
so the order in which facts with different keys are written does not matter.
-/

namespace CodeGraph

attribute [ext] StoredNode StoredEdge

namespace Store

/-- A renumbering takes one store to the other: nodes keep their labels and properties, and
relationships their types, their properties and the nodes that they join. -/
structure Renumbers (nodes edges : Nat → Nat) (left right : Store) : Prop where
  nodes_bijOn : Set.BijOn nodes {cell | (left.node? cell).isSome = true}
    {cell | (right.node? cell).isSome = true}
  edges_bijOn : Set.BijOn edges {cell | (left.edges.get? cell).isSome = true}
    {cell | (right.edges.get? cell).isSome = true}
  node : ∀ cell node, left.node? cell = some node → right.node? (nodes cell) = some node
  edge : ∀ cell edge, left.edges.get? cell = some edge →
    right.edges.get? (edges cell) =
      some { edge with source := nodes edge.source, target := nodes edge.target }

def Isomorphic (left right : Store) : Prop :=
  ∃ nodes edges, Renumbers nodes edges left right

variable {base left right : Store}

section Common

variable (fromLeft : Develops base left) (fromRight : Develops base right)
  (leftSound : Sound left) (rightSound : Sound right) (same : left.picture = right.picture)

include same

theorem find?_isSome_of_same_picture (key : NodeKey) :
    (left.nodeLayout.find? key).isSome = (right.nodeLayout.find? key).isSome :=
  Bool.eq_iff_iff.mpr (iff_of_eq (congrFun (congrArg Picture.mentions same) key))

theorem edgeCell?_isSome_of_same_picture (key : EdgeKey) :
    (left.edgeLayout.find? key).isSome = (right.edgeLayout.find? key).isSome :=
  Bool.eq_iff_iff.mpr (iff_of_eq (congrFun (congrArg Picture.joins same) key))

include leftSound rightSound

/-- Under one key, both stores hold the same node. -/
theorem node?_of_same_picture {key : NodeKey} {cell target : Nat} {node : StoredNode}
    (found : left.index[key.names]? = some cell) (there : right.index[key.names]? = some target)
    (live : left.node? cell = some node) : right.node? target = some node := by
  obtain ⟨other, otherLive, otherKeyed⟩ := rightSound.indexed _ _ there
  have keyed := leftSound.indexed.key_of_get? found live
  have label : other.label = node.label :=
    (StoredNode.key?_eq_some_iff.mp otherKeyed).1.trans
      (StoredNode.key?_eq_some_iff.mp keyed).1.symm
  have properties : other.properties = node.properties := by
    rw [← described_picture there otherLive, ← same]
    exact described_picture found live
  exact StoredNode.ext label properties ▸ otherLive

include fromLeft fromRight

/-- Stores that have come out of the same one and show the same picture are isomorphic. -/
theorem Develops.isomorphic (baseSound : Sound base) : Isomorphic left right := by
  let nodes := left.nodeLayout.moved right.nodeLayout
  let edges := left.edgeLayout.moved right.edgeLayout
  have nodeKeys := find?_isSome_of_same_picture same
  have edgeKeys := edgeCell?_isSome_of_same_picture same
  have leftNodes := leftSound.proper_nodeLayout
  have leftEdges := leftSound.proper_edgeLayout
  have indexed : ∀ (key : NodeKey) (cell : Nat), left.index[key.names]? = some cell →
      right.index[key.names]? = some (nodes cell) := by
    intro key cell found
    have present := nodeKeys key
    rw [show left.nodeLayout.find? key = some cell from found] at present
    obtain ⟨target, there⟩ := Option.isSome_iff_exists.mp present.symm
    rw [show nodes cell = target from Layout.moved_of_find? leftNodes found there]
    exact there
  refine ⟨nodes, edges, ?_, ?_, ?_, ?_⟩
  · exact Layout.bijOn_moved fromLeft.nodes fromRight.nodes nodeKeys leftNodes
      rightSound.proper_nodeLayout
  · exact Layout.bijOn_moved fromLeft.edges fromRight.edges edgeKeys leftEdges
      rightSound.proper_edgeLayout
  · intro cell node live
    rcases Layout.moved_cases fromLeft.nodes fromRight.nodes nodeKeys leftNodes
      (Option.isSome_of_eq_some live) with ⟨key, found, there⟩ | ⟨-, stays, unchanged⟩
    · exact node?_of_same_picture leftSound rightSound same found there live
    · exact (congrArg right.node? stays).trans (unchanged.trans live)
  · intro cell edge live
    rcases Layout.moved_cases fromLeft.edges fromRight.edges edgeKeys leftEdges
      (Option.isSome_of_eq_some live) with ⟨key, found, there⟩ | ⟨lost, stays, unchanged⟩
    · obtain ⟨other, otherLive, start, finish, type⟩ := rightSound.of_edgeCell? there
      obtain ⟨sameEdge, sameLive, leftStart, leftFinish, leftType⟩ := leftSound.of_edgeCell? found
      cases live.symm.trans sameLive
      have source := Option.some.inj (start.symm.trans (indexed _ _ leftStart))
      have target := Option.some.inj (finish.symm.trans (indexed _ _ leftFinish))
      have properties : other.properties = edge.properties := by
        rw [← annotated_picture there otherLive, ← same]
        exact annotated_picture found live
      rw [otherLive]
      exact congrArg some (StoredEdge.ext source target (type.trans leftType.symm) properties)
    · have before : base.edges.get? cell = some edge :=
        (fromRight.edges.others cell lost).symm.trans (unchanged.trans live)
      have source : nodes edge.source = edge.source :=
        Layout.moved_of_used fromLeft.nodes fromRight.nodes leftNodes
          (baseSound.sources cell edge before)
      have target : nodes edge.target = edge.target :=
        Layout.moved_of_used fromLeft.nodes fromRight.nodes leftNodes
          (baseSound.targets cell edge before)
      rw [source, target]
      exact (congrArg right.edges.get? stays).trans (unchanged.trans live)

end Common

end Store

end CodeGraph
