import CodeGraph.OrderedMap

/-!
# Facts

What visitors extract from a syntax tree: the nodes of the dependency graph and the
relationships between named nodes, each with attributes.
-/

namespace CodeGraph

inductive NodeLabel where
  /-- A class, interface, record, enum or annotation type. -/
  | type
  | method
deriving DecidableEq, Repr, Hashable

def NodeLabel.name : NodeLabel → String
  | .type => "Type"
  | .method => "Method"

inductive Relation where
  | declares
  | invokes
  | inherits
  | implements
deriving DecidableEq, Repr, Hashable

namespace Relation

def name : Relation → String
  | declares => "DECLARES"
  | invokes => "INVOKES"
  | inherits => "EXTENDS"
  | implements => "IMPLEMENTS"

def source : Relation → NodeLabel
  | declares | inherits | implements => .type
  | invokes => .method

def target : Relation → NodeLabel
  | declares | invokes => .method
  | inherits | implements => .type

end Relation

inductive Scalar where
  | bool (value : Bool)
  | int (value : Int64)
  | text (value : String)
deriving DecidableEq, Repr

namespace Scalar

/-- A count as an attribute; counts beyond the largest integer become that. -/
def ofNat (count : Nat) : Scalar :=
  .int (if count < 1 <<< 63 then Int64.ofNat count else Int64.maxValue)

def render : Scalar → String
  | bool value => if value then "true" else "false"
  | int value => toString value.toInt
  | text value => value

end Scalar

abbrev Attributes := OrderedMap Scalar

/-- A node of the graph; the full name is its key within its label. -/
structure NodeFact where
  label : NodeLabel
  name : String
  attributes : Attributes := OrderedMap.empty
deriving DecidableEq, Repr

/-- A relationship between two named nodes. -/
structure EdgeFact where
  relation : Relation
  source : String
  target : String
  attributes : Attributes := OrderedMap.empty
deriving DecidableEq, Repr

inductive Fact where
  | node (fact : NodeFact)
  | edge (fact : EdgeFact)
deriving DecidableEq, Repr

def NodeFact.with (fact : NodeFact) (key : String) (value : Scalar) : NodeFact :=
  { fact with attributes := fact.attributes.insert key value }

def EdgeFact.with (fact : EdgeFact) (key : String) (value : Scalar) : EdgeFact :=
  { fact with attributes := fact.attributes.insert key value }

end CodeGraph
