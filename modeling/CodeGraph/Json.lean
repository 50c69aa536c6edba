import CodeGraph.Number.Binary64

/-!
# Structured values

The values that statements take as parameters and that reports are written in.  The
entries of a map stand in a fixed order: parameters are sorted by key, reports are in
the order of their fields.
-/

namespace CodeGraph

inductive Json where
  | null
  | bool (value : Bool)
  | int (value : Int)
  | float (value : Binary64)
  | text (value : String)
  | list (items : List Json)
  | map (entries : List (String × Json))
deriving Inhabited

namespace Json

def find? (key : String) : List (String × Json) → Option Json
  | [] => none
  | entry :: rest => if entry.1 = key then some entry.2 else find? key rest

def sortByKey {α : Type} (entries : List (String × α)) : List (String × α) :=
  entries.mergeSort fun left right => decide (left.1 ≤ right.1)

/-- A map of numbers, in the order of its entries. -/
def ofCounts (counts : List (String × Nat)) : Json :=
  .map (counts.map fun entry => (entry.1, .int entry.2))

end Json

end CodeGraph
