import CodeGraph.Fact
import CodeGraph.Json

/-!
# Statements

A statement is a text in the statement language together with its parameters.  The
statement of a fact merges the fact's nodes by their key, so that running it again
changes nothing, and sets the attributes from a map parameter.
-/

namespace CodeGraph

def keyProperty : String := "qualified_name"

/-- The parameters of a statement, sorted by name. -/
abbrev Parameters := List (String × Json)

structure Statement where
  text : String
  parameters : Option Parameters := none
deriving Inhabited

namespace Scalar

def toJson : Scalar → Json
  | bool value => .bool value
  | int value => .int value.toInt
  | text value => .text value

/-- The scalar that a structured value is, if it is one. -/
def ofJson? : Json → Option Scalar
  | .bool value => some (.bool value)
  | .int value =>
      if Int64.minValue.toInt ≤ value ∧ value ≤ Int64.maxValue.toInt then
        some (.int (Int64.ofInt value))
      else none
  | .text value => some (.text value)
  | _ => none

end Scalar

def OrderedMap.toParameter (attributes : Attributes) : Json :=
  .map (Json.sortByKey (attributes.entries.map fun entry => (entry.1, entry.2.toJson)))

namespace Statement

/-- A node pattern with a variable, a label and a parameter for the key. -/
def keyedNode (name label parameter : String) : String :=
  "(" ++ name ++ ":" ++ label ++ " \x7b" ++ keyProperty ++ ": $" ++ parameter ++ "\x7d)"

def mergeNode (fact : NodeFact) : Statement :=
  { text := "MERGE " ++ keyedNode "n" fact.label.name keyProperty ++ " SET n += $props"
    parameters := some
      [("props", fact.attributes.toParameter), (keyProperty, .text fact.name)] }

/-- Merges both ends of a relationship on their keys, then the relationship, and sets
its attributes. -/
def mergeEdge (fact : EdgeFact) : Statement :=
  { text := "MERGE " ++ keyedNode "a" fact.relation.source.name "from" ++
      " MERGE " ++ keyedNode "b" fact.relation.target.name "to" ++
      " MERGE (a)-[r:" ++ fact.relation.name ++ "]->(b) SET r += $props"
    parameters := some
      [("from", .text fact.source), ("props", fact.attributes.toParameter),
        ("to", .text fact.target)] }

def ofFact : Fact → Statement
  | .node fact => mergeNode fact
  | .edge fact => mergeEdge fact

end Statement

end CodeGraph
