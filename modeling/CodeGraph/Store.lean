import CodeGraph.Arena
import CodeGraph.Failure
import CodeGraph.Statement
import Std.Data.HashMap

/-!
# Graph stores

A store holds a property graph: nodes with a label and relationships with a type, both
with properties.  Nodes and relationships are known by the number of the cell they
live in, and cells are filled again once they are empty.  Of the nodes with the same
label and the same textual key, the index knows one, so that merging on the key need
not look at the other nodes.
-/

namespace CodeGraph

structure StoredNode where
  label : String
  properties : Properties
deriving DecidableEq, Repr

/-- A relationship of the graph, between the nodes in two cells. -/
structure StoredEdge where
  source : Nat
  target : Nat
  type : String
  properties : Properties
deriving DecidableEq, Repr

namespace Properties

/-- Are all the wanted properties there, with values that agree? -/
def includes (properties wanted : Properties) : Bool :=
  wanted.entries.all fun entry =>
    match properties.find? entry.1 with
    | some value => value.agrees entry.2
    | none => false

/-- Sets one property; setting it to nothing removes it. -/
def set (properties : Properties) (entry : String × PropertyValue) : Properties :=
  match entry.2 with
  | .null => properties.erase entry.1
  | value => properties.insert entry.1 value

def overlay (properties changes : Properties) : Properties :=
  changes.entries.foldl set properties

/-- The key among the properties, if it is a text. -/
def key? (properties : Properties) : Option String :=
  (properties.find? keyProperty).bind PropertyValue.asText?

end Properties

namespace StoredNode

def key? (node : StoredNode) : Option (String × String) :=
  (Properties.key? node.properties).map fun key => (node.label, key)

/-- Has the node the label, if one is given, and all the properties? -/
def matchesPattern (node : StoredNode) (label : Option String) (properties : Properties) :
    Bool :=
  (match label with
    | some label => label == node.label
    | none => true) &&
  Properties.includes node.properties properties

end StoredNode

structure Store where
  nodes : Arena StoredNode := Arena.empty
  edges : Arena StoredEdge := Arena.empty
  /-- The relationships, the newest first. -/
  recent : List Nat := []
  /-- For a label and a key, the node that is found under them. -/
  index : Std.HashMap (String × String) Nat := ∅

namespace Store

/-- The store without nodes. -/
def empty : Store := {}

instance : Inhabited Store := ⟨empty⟩

/-! ## Nodes -/

def node? (store : Store) (index : Nat) : Option StoredNode := store.nodes.get? index

/-- The index after a node has come under a key, unless one is already there. -/
def claimKey (index : Std.HashMap (String × String) Nat)
    (key : Option (String × String)) (node : Nat) : Std.HashMap (String × String) Nat :=
  match key with
  | some key => index.insertIfNew key node
  | none => index

/-- The index after a node has left a key. -/
def releaseKey (index : Std.HashMap (String × String) Nat)
    (key : Option (String × String)) (node : Nat) : Std.HashMap (String × String) Nat :=
  match key with
  | some key => if index[key]? = some node then index.erase key else index
  | none => index

/-- Creates a node; the answer is its cell. -/
def createNode (store : Store) (label : String) (properties : Properties) : Nat × Store :=
  let node : StoredNode := ⟨label, properties⟩
  let cell := store.nodes.next
  (cell, { store with
    nodes := store.nodes.insert node
    index := claimKey store.index node.key? cell })

/-- The nodes with a label, if one is given, and with all the properties. -/
def matchNodes (store : Store) (label : Option String) (properties : Properties) :
    List Nat :=
  store.nodes.indices.filter fun cell =>
    match store.node? cell with
    | some node => node.matchesPattern label properties
    | none => false

/-- The node that merging finds: with a key among the properties only the node under
that key, else the first one that matches. -/
def findNode? (store : Store) (label : String) (properties : Properties) : Option Nat :=
  match Properties.key? properties with
  | some key =>
      match store.index[(label, key)]? with
      | some cell =>
          match store.node? cell with
          | some node =>
              if node.matchesPattern (some label) properties then some cell else none
          | none => none
      | none => none
  | none => (store.matchNodes (some label) properties).head?

def mergeNode (store : Store) (label : String) (properties : Properties) : Nat × Store :=
  match store.findNode? label properties with
  | some cell => (cell, store)
  | none => store.createNode label properties

def nodeByKey? (store : Store) (label key : String) : Option StoredNode :=
  store.index[(label, key)]?.bind store.node?

def setNode (store : Store) (cell : Nat) (changes : Properties) : Store :=
  match store.node? cell with
  | none => store
  | some node =>
      let changed := { node with properties := Properties.overlay node.properties changes }
      { store with
        nodes := store.nodes.modify cell fun _ => changed
        index :=
          if node.key? = changed.key? then store.index
          else claimKey (releaseKey store.index node.key? cell) changed.key? cell }

/-! ## Relationships -/

/-- The relationships, the newest first, for which a test holds. -/
def edgesWhere (store : Store) (test : StoredEdge → Bool) : List Nat :=
  store.recent.filter fun cell => (store.edges.get? cell).any test

/-- The relationships that start at a node, the newest first. -/
def outgoing (store : Store) (node : Nat) : List Nat :=
  store.edgesWhere (·.source == node)

/-- The relationships that lead to a node, the newest first. -/
def incoming (store : Store) (node : Nat) : List Nat :=
  store.edgesWhere (·.target == node)

def degree (store : Store) (node : Nat) : Nat :=
  (store.outgoing node).length + (store.incoming node).length

/-- Creates a relationship between two nodes; the answer is its cell. -/
def createEdge (store : Store) (source target : Nat) (type : String)
    (properties : Properties) : Nat × Store :=
  let cell := store.edges.next
  (cell, { store with
    edges := store.edges.insert ⟨source, target, type, properties⟩
    recent := cell :: store.recent })

/-- The newest relationship between two nodes with a type and all the properties. -/
def findEdge? (store : Store) (source target : Nat) (type : String)
    (properties : Properties) : Option Nat :=
  (store.edgesWhere fun edge =>
    edge.source == source && edge.target == target && edge.type == type &&
      Properties.includes edge.properties properties).head?

def mergeEdge (store : Store) (source target : Nat) (type : String)
    (properties : Properties) : Nat × Store :=
  match store.findEdge? source target type properties with
  | some cell => (cell, store)
  | none => store.createEdge source target type properties

def setEdge (store : Store) (cell : Nat) (changes : Properties) : Store :=
  { store with
    edges := store.edges.modify cell fun edge =>
      { edge with properties := Properties.overlay edge.properties changes } }

/-- Deletes a relationship, if it is there. -/
def deleteEdge (store : Store) (cell : Nat) : Store :=
  { store with
    edges := store.edges.erase cell
    recent := store.recent.erase cell }

/-- Deletes a node, if it is there.  Its relationships go first, those that start at it
before those that lead to it; without `detach` a node with relationships stays. -/
def deleteNode (store : Store) (cell : Nat) (detach : Bool) : Except Failure Store :=
  match store.node? cell with
  | none => .ok store
  | some node =>
      let degree := store.degree cell
      if 0 < degree && !detach then
        .error (.unsupportedStatement "DELETE" (.stillConnected node.label degree))
      else
        let alone := (store.outgoing cell).foldl deleteEdge store
        let alone := (alone.incoming cell).foldl deleteEdge alone
        .ok { alone with
          nodes := alone.nodes.erase cell
          index := releaseKey alone.index node.key? cell }

/-- The relationships of a type from an indexed node with one key to a node with
another key. -/
def relationships (store : Store) (type source target : String) : List StoredEdge :=
  let sources := (store.index.toList.filter (·.1.2 = source)).map (·.2)
  sources.flatMap fun node =>
    (store.outgoing node).filterMap fun cell =>
      match store.edges.get? cell with
      | none => none
      | some edge =>
          let leads := (store.node? edge.target).bind fun node =>
            Properties.key? node.properties
          if edge.type = type ∧ leads = some target then some edge else none

def nodeCount (store : Store) : Nat := store.nodes.size

def edgeCount (store : Store) : Nat := store.edges.size

/-! ## Counts -/

/-- The counts of a store, by label and by type, in the order of first appearance. -/
structure Stats where
  nodes : Nat
  relationships : Nat
  nodesByLabel : OrderedMap Nat
  relationshipsByType : OrderedMap Nat
deriving DecidableEq, Repr

/-- How often each name occurs, in the order of first appearance. -/
def tally (names : List String) : OrderedMap Nat :=
  names.foldl (fun counts name => counts.insert name ((counts.find? name).getD 0 + 1))
    OrderedMap.empty

def stats (store : Store) : Stats :=
  { nodes := store.nodeCount
    relationships := store.edgeCount
    nodesByLabel := tally (store.nodes.toList.map (·.label))
    relationshipsByType := tally (store.edges.toList.map (·.type)) }

def Stats.toJson (stats : Stats) : Json :=
  .map
    [("nodes", .int stats.nodes), ("relationships", .int stats.relationships),
      ("nodes_by_label", Json.ofCounts stats.nodesByLabel.entries),
      ("relationships_by_type", Json.ofCounts stats.relationshipsByType.entries)]

end Store

end CodeGraph
