import CodeGraph.KindSet
import CodeGraph.Node.Walk
import CodeGraph.Visitor.Registry

/-!
# Extracting facts from trees

The walk over a tree skips the subtrees of the stopped kinds and hands every other
node to the visitor of its kind.  The facts of all visitors form one stream; a visitor
that fails contributes nothing, and the walk goes on below its node.
-/

namespace CodeGraph

structure WalkCounts where
  /-- Nodes entered, skipped ones included. -/
  seen : Nat := 0
  visited : Nat := 0
  skipped : Nat := 0
  faults : Nat := 0
deriving DecidableEq, Repr, Inhabited

/-- The facts and counts collected so far. -/
structure Extraction where
  facts : Array Fact := #[]
  counts : WalkCounts := {}
deriving Inhabited

namespace Extraction

/-- Takes note of what a visitor made of a node; the answer is whether to descend. -/
def record (extraction : Extraction) (visit : Visit) : Bool × Extraction :=
  let counts := { extraction.counts with visited := extraction.counts.visited + 1 }
  match visit.outcome with
  | .ok descend =>
      (descend, { facts := extraction.facts ++ visit.facts, counts })
  | .error _ =>
      (true, { extraction with counts := { counts with faults := counts.faults + 1 } })

def enter (registry : Registry) (stopped : KindSet) (node : Node)
    (extraction : Extraction) : Bool × Extraction :=
  let counts := { extraction.counts with seen := extraction.counts.seen + 1 }
  if stopped.contains node.kind then
    (false, { extraction with counts := { counts with skipped := counts.skipped + 1 } })
  else
    match registry.visitor? node.kind with
    | none => (true, { extraction with counts })
    | some visitor => { extraction with counts }.record (visitor.visit node)

def walker (registry : Registry) (stopped : KindSet) : Walker Extraction where
  enter := enter registry stopped

def add (registry : Registry) (stopped : KindSet) (extraction : Extraction)
    (tree : Node) : Extraction :=
  tree.walk (walker registry stopped) extraction

/-- The extraction without its facts, which have been taken. -/
def withoutFacts (extraction : Extraction) : Extraction :=
  { extraction with facts := #[] }

end Extraction

end CodeGraph
