import CodeGraph.Kind

/-!
# Syntax nodes

The tree that a producer builds: each node has a kind and the identity of the
declaration or call it stands for.
-/

namespace CodeGraph

structure SuperType where
  name : String
  isInterface : Bool
deriving DecidableEq, Repr

structure Node where
  kind : Kind
  name : Option String := none
  qualifiedName : Option String := none
  declaringType : Option String := none
  enclosingMethod : Option String := none
  /-- Full name of the method that a call runs, where it is known. -/
  invocationTarget : Option String := none
  superTypes : List SuperType := []
  /-- Line of the source, counted from 1; 0 when unknown. -/
  line : Nat := 0
  file : Option String := none
  children : List Node := []
deriving Inhabited, Repr

namespace Node

mutual

/-- The number of nodes of the tree, its root included. -/
def size : Node → Nat
  | ⟨_, _, _, _, _, _, _, _, _, children⟩ => 1 + sizeAll children

/-- The number of nodes of several trees. -/
def sizeAll : List Node → Nat
  | [] => 0
  | node :: nodes => size node + sizeAll nodes

end

end Node

end CodeGraph
