import CodeGraph.Java.Names
import Mathlib.Data.List.Basic

/-!
# Parts of Java trees

A tree is built from its children, and everything inside of it is one of its subtrees.
-/

namespace CodeGraph.Java

namespace Tree

@[elab_as_elim] theorem induction {motive : Tree → Prop}
    (step : ∀ tree, (∀ child ∈ tree.children, motive child) → motive tree) (tree : Tree) :
    motive tree :=
  @Tree.rec motive (fun children => ∀ child ∈ children, motive child)
    (fun _ _ _ _ children => step _ children) (by simp)
    (fun _ _ first rest => List.forall_mem_cons.mpr ⟨first, rest⟩) tree

mutual

/-- The tree itself and everything below it. -/
def subtrees : Tree → List Tree
  | ⟨construct, span, role, children⟩ =>
      ⟨construct, span, role, children⟩ :: subtreesOfAll children

def subtreesOfAll : List Tree → List Tree
  | [] => []
  | tree :: trees => subtrees tree ++ subtreesOfAll trees

end

theorem subtreesOfAll_eq_flatMap (trees : List Tree) :
    subtreesOfAll trees = trees.flatMap subtrees := by
  induction trees with
  | nil => rfl
  | cons tree trees induction => rw [subtreesOfAll, induction, List.flatMap_cons]

theorem subtrees_eq (tree : Tree) : tree.subtrees = tree :: tree.children.flatMap subtrees := by
  rw [← subtreesOfAll_eq_flatMap]
  cases tree
  rw [subtrees]

theorem self_mem_subtrees (tree : Tree) : tree ∈ tree.subtrees := by
  rw [subtrees_eq]
  exact List.mem_cons_self

theorem subtrees_subset {tree child : Tree} (member : child ∈ tree.children) :
    child.subtrees ⊆ tree.subtrees := by
  intro part below
  rw [subtrees_eq]
  exact List.mem_cons_of_mem tree (List.mem_flatMap.mpr ⟨child, member, below⟩)

end Tree

end CodeGraph.Java
