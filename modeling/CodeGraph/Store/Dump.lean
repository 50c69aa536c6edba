import CodeGraph.Store

/-!
# Dumps

A dump is a store without its cells: the nodes in order, and the relationships in
order with their ends given by position.  It is what a snapshot holds.
-/

namespace CodeGraph

/-- A relationship of a dump, between the nodes at two positions. -/
structure DumpedEdge where
  source : Nat
  target : Nat
  type : String
  properties : Properties
deriving DecidableEq, Repr

structure Dump where
  nodes : List StoredNode
  edges : List DumpedEdge
deriving DecidableEq, Repr

namespace Store

def position (store : Store) (cell : Nat) : Nat := store.nodes.indices.idxOf cell

/-- The contents of a store, in the order of the cells. -/
def dump (store : Store) : Dump :=
  { nodes := store.nodes.toList
    edges := store.edges.toList.map fun edge =>
      ⟨store.position edge.source, store.position edge.target, edge.type,
        edge.properties⟩ }

def restoreEdges (cells : Array Nat) : List DumpedEdge → Store → Option Store
  | [], store => some store
  | edge :: edges, store =>
      match cells[edge.source]?, cells[edge.target]? with
      | some source, some target =>
          restoreEdges cells edges
            (store.createEdge source target edge.type edge.properties).2
      | _, _ => none

def restoreNodes : List StoredNode → Array Nat × Store → Array Nat × Store
  | [], restored => restored
  | node :: nodes, (cells, store) =>
      let (cell, store) := store.createNode node.label node.properties
      restoreNodes nodes (cells.push cell, store)

/-- The store with the given contents, unless a relationship leads to a node that is
not there. -/
def ofDump? (dump : Dump) : Option Store :=
  let (cells, store) := restoreNodes dump.nodes (#[], empty)
  restoreEdges cells dump.edges store

end Store

end CodeGraph
