import CodeGraph.PropertyValue

/-!
# Clauses of the statement language

The shape of a statement after reading: a list of clauses over node and relationship
patterns, with parameters not yet replaced by values.
-/

namespace CodeGraph

inductive Expression where
  | parameter (name : String)
  | value (value : PropertyValue)
deriving DecidableEq, Repr

/-- The properties of a pattern, as written. -/
abbrev PatternProperties := List (String × Expression)

structure NodePattern where
  name : Option String := none
  label : Option String := none
  properties : PatternProperties := []
deriving DecidableEq, Repr

structure RelationPattern where
  name : Option String := none
  type : String
  properties : PatternProperties := []
deriving DecidableEq, Repr

inductive GraphPattern where
  | node (node : NodePattern)
  | path (source : NodePattern) (relation : RelationPattern) (target : NodePattern)
deriving DecidableEq, Repr

inductive Clause where
  | merge (pattern : GraphPattern)
  | create (pattern : GraphPattern)
  | select (nodes : List NodePattern)
  /-- Sets every property of a map. -/
  | setAll (name : String) (map : Expression)
  | setOne (name key : String) (value : Expression)
  | delete (names : List String) (detach : Bool)
deriving DecidableEq, Repr

end CodeGraph
