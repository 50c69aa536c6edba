import CodeGraph.Node

/-!
# Walking a tree

A walker is asked at every node whether its children are to be visited, and is told
when a node whose children were visited is left.  It may base its answers on all it
has seen so far.  The walk is depth-first and in the order of the children.
-/

namespace CodeGraph

/-- What a walk does at the nodes, with a state of type `σ`. -/
structure Walker (σ : Type) where
  /-- Enters a node and answers whether to descend. -/
  enter : Node → σ → Bool × σ
  leave : Node → σ → σ := fun _ state => state

namespace Node

variable {σ : Type}

mutual

def walk (walker : Walker σ) : Node → σ → σ
  | ⟨kind, name, qualifiedName, declaringType, enclosingMethod, invocationTarget,
      superTypes, line, file, children⟩, state =>
      let node : Node := ⟨kind, name, qualifiedName, declaringType, enclosingMethod,
        invocationTarget, superTypes, line, file, children⟩
      match walker.enter node state with
      | (false, entered) => entered
      | (true, entered) => walker.leave node (walkAll walker children entered)

/-- Walks over several trees in turn. -/
def walkAll (walker : Walker σ) : List Node → σ → σ
  | [], state => state
  | node :: nodes, state => walkAll walker nodes (walk walker node state)

end

end Node

end CodeGraph
