import CodeGraph.Node.Walk
import Mathlib.Algebra.Order.Ring.Nat
import Mathlib.Data.List.Basic

/-!
# The nodes that a walk reaches

A tree lists its nodes in preorder, each with the nodes above it.  A walker whose answer
depends only on the node enters exactly the nodes below which no ancestor refuses the
walk, and it enters them in the order of the list.
-/

namespace CodeGraph

variable {σ : Type}

/-- A node of a tree, with its proper ancestors there, the root first. -/
structure Occurrence where
  ancestors : List Node
  node : Node

namespace Node

@[elab_as_elim] theorem induction {motive : Node → Prop}
    (step : ∀ node, (∀ child ∈ node.children, motive child) → motive node) (node : Node) :
    motive node :=
  @Node.rec motive (fun children => ∀ child ∈ children, motive child)
    (fun _ _ _ _ _ _ _ _ _ _ children => step _ children) (by simp)
    (fun _ _ first rest => List.forall_mem_cons.mpr ⟨first, rest⟩) node

theorem walk_eq (walker : Walker σ) (node : Node) (state : σ) :
    node.walk walker state =
      match walker.enter node state with
      | (false, entered) => entered
      | (true, entered) => walker.leave node (walkAll walker node.children entered) := by
  cases node
  exact walk.eq_1 ..

theorem walkAll_eq_foldl (walker : Walker σ) (nodes : List Node) (state : σ) :
    walkAll walker nodes state = nodes.foldl (fun state node => node.walk walker state) state := by
  induction nodes generalizing state with
  | nil => rfl
  | cons node nodes induction => exact induction (node.walk walker state)

mutual

/-- The nodes of a tree that stands below others, in preorder. -/
def occurrencesBelow (above : List Node) : Node → List Occurrence
  | ⟨kind, name, qualifiedName, declaringType, enclosingMethod, invocationTarget,
      superTypes, line, file, children⟩ =>
      let node : Node := ⟨kind, name, qualifiedName, declaringType, enclosingMethod,
        invocationTarget, superTypes, line, file, children⟩
      ⟨above, node⟩ :: occurrencesOfAll (above ++ [node]) children

/-- The nodes of several trees that stand below the same others. -/
def occurrencesOfAll (above : List Node) : List Node → List Occurrence
  | [] => []
  | node :: nodes => occurrencesBelow above node ++ occurrencesOfAll above nodes

end

/-- The nodes of a tree in preorder, each with its ancestors. -/
def occurrences (tree : Node) : List Occurrence := tree.occurrencesBelow []

theorem occurrencesOfAll_eq_flatMap (above nodes : List Node) :
    occurrencesOfAll above nodes = nodes.flatMap (occurrencesBelow above) := by
  induction nodes with
  | nil => rfl
  | cons node nodes induction => rw [occurrencesOfAll, induction, List.flatMap_cons]

theorem occurrencesBelow_eq (above : List Node) (node : Node) :
    node.occurrencesBelow above =
      ⟨above, node⟩ :: node.children.flatMap (occurrencesBelow (above ++ [node])) := by
  rw [← occurrencesOfAll_eq_flatMap]
  cases node
  rw [occurrencesBelow]

/-- The node without its children. -/
def alone (node : Node) : Node := { node with children := [] }

/-- The nodes of a tree in preorder. -/
def nodes (tree : Node) : List Node := tree.occurrences.map (·.node.alone)

theorem map_occurrencesBelow (tree : Node) (above : List Node) :
    (tree.occurrencesBelow above).map (·.node.alone) = tree.nodes := by
  suffices same : ∀ other, (tree.occurrencesBelow above).map (·.node.alone) =
      (tree.occurrencesBelow other).map (·.node.alone) from same []
  induction tree using Node.induction generalizing above with
  | step tree induction =>
      intro other
      rw [occurrencesBelow_eq, occurrencesBelow_eq, List.map_cons, List.map_cons,
        List.map_flatMap, List.map_flatMap]
      congr 1
      exact List.flatMap_congr fun child member => induction child member _ _

theorem nodes_eq (tree : Node) : tree.nodes = tree.alone :: tree.children.flatMap nodes := by
  rw [nodes, occurrences, occurrencesBelow_eq, List.map_cons, List.map_flatMap]
  congr 1
  exact List.flatMap_congr fun child _ => map_occurrencesBelow child _

theorem sizeAll_eq_sum (nodes : List Node) : sizeAll nodes = (nodes.map size).sum := by
  induction nodes with
  | nil => rfl
  | cons node nodes induction => rw [sizeAll, induction, List.map_cons, List.sum_cons]

theorem size_eq (node : Node) : node.size = 1 + (node.children.map size).sum := by
  rw [← sizeAll_eq_sum]
  cases node
  rw [size]

/-- Every node of a tree is listed once. -/
theorem length_occurrences (tree : Node) : tree.occurrences.length = tree.size := by
  suffices below : ∀ above, (tree.occurrencesBelow above).length = tree.size from below []
  induction tree using Node.induction with
  | step node induction =>
      intro above
      rw [occurrencesBelow_eq, size_eq, List.length_cons, List.length_flatMap, Nat.add_comm]
      congr 2
      exact List.map_congr_left fun child member => induction child member _

/-! ## Reaching nodes -/

/-- The nodes of a tree above which every node lets the walk descend, in preorder. -/
def reached (descends : Node → Bool) (tree : Node) : List Occurrence :=
  tree.occurrences.filter fun occurrence => occurrence.ancestors.all descends

theorem mem_reached {descends : Node → Bool} {tree : Node} {occurrence : Occurrence} :
    occurrence ∈ tree.reached descends ↔
      occurrence ∈ tree.occurrences ∧ ∀ above ∈ occurrence.ancestors, descends above = true := by
  rw [reached, List.mem_filter, List.all_eq_true]

private def reachedBelow (descends : Node → Bool) (above : List Node) (tree : Node) :
    List Occurrence :=
  (tree.occurrencesBelow above).filter fun occurrence => occurrence.ancestors.all descends

private theorem reachedBelow_eq (descends : Node → Bool) (above : List Node) (node : Node) :
    reachedBelow descends above node =
      (if above.all descends then [⟨above, node⟩] else []) ++
        node.children.flatMap (reachedBelow descends (above ++ [node])) := by
  unfold reachedBelow
  rw [occurrencesBelow_eq, List.filter_cons, List.filter_flatMap]
  cases above.all descends <;> rfl

/-- Nothing is reached below a node that does not let the walk descend. -/
private theorem reachedBelow_eq_nil {descends : Node → Bool} {above : List Node}
    (refused : above.all descends = false) (node : Node) :
    reachedBelow descends above node = [] := by
  induction node using Node.induction generalizing above with
  | step node induction =>
      rw [reachedBelow_eq, refused]
      simp only [Bool.false_eq_true, if_false, List.nil_append, List.flatMap_eq_nil_iff]
      intro child member
      exact induction child member (by rw [List.all_append, refused, Bool.false_and])

/-- A walker that never looks at its state to answer, and does nothing on leaving, does at
the nodes that are reached, one after another, what it does on entering. -/
theorem walk_eq_foldl_reached {walker : Walker σ} {descends : Node → Bool}
    (answers : ∀ node state, (walker.enter node state).1 = descends node)
    (leaves : ∀ node state, walker.leave node state = state) (tree : Node) (state : σ) :
    tree.walk walker state =
      (tree.reached descends).foldl
        (fun state occurrence => (walker.enter occurrence.node state).2) state := by
  suffices below : ∀ above, above.all descends = true → ∀ state,
      tree.walk walker state =
        (reachedBelow descends above tree).foldl
          (fun state occurrence => (walker.enter occurrence.node state).2) state from
    below [] rfl state
  induction tree using Node.induction with
  | step node induction =>
      intro above descended state
      have answer := answers node state
      rw [walk_eq, reachedBelow_eq, descended, if_pos rfl, List.singleton_append, List.foldl_cons]
      rcases entering : walker.enter node state with ⟨answered, entered⟩
      rw [entering] at answer
      have deeper : (above ++ [node]).all descends = descends node := by
        rw [List.all_append, descended, Bool.true_and, List.all_cons, List.all_nil, Bool.and_true]
      cases descent : descends node with
      | false =>
          rw [descent] at answer deeper
          cases answer
          rw [List.flatMap_eq_nil_iff.mpr fun child _ => reachedBelow_eq_nil deeper child]
          rfl
      | true =>
          rw [descent] at answer deeper
          cases answer
          dsimp only
          rw [leaves, walkAll_eq_foldl, List.foldl_flatMap]
          exact List.foldl_ext _ _ _ fun state child member =>
            induction child member _ deeper state

private theorem reachedBelow_congr {descends other : Node → Bool} {above : List Node}
    (descended : above.all descends = true) (otherDescended : above.all other = true)
    (node : Node)
    (agree : ∀ occurrence ∈ reachedBelow descends above node,
      other occurrence.node = descends occurrence.node) :
    reachedBelow other above node = reachedBelow descends above node := by
  induction node using Node.induction generalizing above with
  | step node induction =>
      rw [reachedBelow_eq, descended, if_pos rfl, List.singleton_append] at agree
      obtain ⟨here, below⟩ := List.forall_mem_cons.mp agree
      rw [reachedBelow_eq, reachedBelow_eq, descended, otherDescended]
      have deeper : (above ++ [node]).all descends = descends node := by simp [descended]
      have otherDeeper : (above ++ [node]).all other = descends node := by
        simp [otherDescended, here]
      congr 1
      apply List.flatMap_congr
      intro child member
      cases descent : descends node with
      | false =>
          rw [descent] at deeper otherDeeper
          rw [reachedBelow_eq_nil deeper, reachedBelow_eq_nil otherDeeper]
      | true =>
          rw [descent] at deeper otherDeeper
          refine induction child member deeper otherDeeper fun occurrence reached => ?_
          exact below occurrence (List.mem_flatMap.mpr ⟨child, member, reached⟩)

/-- Which nodes are reached depends only on the answers at nodes that are reached. -/
theorem reached_congr {descends other : Node → Bool} {tree : Node}
    (agree : ∀ occurrence ∈ tree.reached descends,
      other occurrence.node = descends occurrence.node) :
    tree.reached other = tree.reached descends :=
  reachedBelow_congr (List.all_nil : [].all descends = true) List.all_nil tree agree

/-- An element of a list made of parts lies in one of the parts, behind all the parts before
that one. -/
theorem exists_part_of_flatMap {α β : Type} {list : List α} {parts : α → List β}
    {early late : List β} {element : β} (cut : list.flatMap parts = early ++ element :: late) :
    ∃ before whole after inner rest, list = before ++ whole :: after ∧
      parts whole = inner ++ element :: rest ∧ early = before.flatMap parts ++ inner := by
  induction list generalizing early with
  | nil => exact absurd cut (by simp)
  | cons first list induction =>
      rw [List.flatMap_cons, List.append_eq_append_iff] at cut
      rcases cut with ⟨behind, same, later⟩ | ⟨rest, here, later⟩
      · obtain ⟨before, whole, after, inner, rest, split, found, place⟩ := induction later
        exact ⟨first :: before, whole, after, inner, rest, by rw [split, List.cons_append], found,
          by rw [same, place, List.flatMap_cons, List.append_assoc]⟩
      · cases rest with
        | nil =>
            have fromHere : list.flatMap parts = [] ++ element :: late := later.symm
            obtain ⟨before, whole, after, inner, rest, split, found, place⟩ := induction fromHere
            rw [List.append_nil] at here
            exact ⟨first :: before, whole, after, inner, rest, by rw [split, List.cons_append],
              found, by rw [List.flatMap_cons, List.append_assoc, ← place, List.append_nil, here]⟩
        | cons found rest =>
            obtain ⟨same, -⟩ := List.cons.inj later
            subst found
            exact ⟨[], first, list, early, rest, rfl, here, rfl⟩

/-- The nodes above a node that is reached are reached before it. -/
theorem reached_ancestors {descends : Node → Bool} {tree : Node} {early late : List Occurrence}
    {occurrence : Occurrence} (cut : tree.reached descends = early ++ occurrence :: late) :
    ∀ above ∈ occurrence.ancestors, ∃ earlier ∈ early, earlier.node = above := by
  -- nodes above the whole tree are ancestors too, but are not reached in it
  suffices below : ∀ above, reachedBelow descends above tree = early ++ occurrence :: late →
      ∀ node ∈ occurrence.ancestors, node ∈ above ∨ ∃ earlier ∈ early, earlier.node = node from
    fun node member => (below [] cut node member).resolve_left List.not_mem_nil
  clear cut
  induction tree using Node.induction generalizing early late with
  | step tree induction =>
      intro above cut node member
      rw [reachedBelow_eq] at cut
      cases descended : above.all descends with
      | false =>
          have nothing := reachedBelow_eq_nil descended tree
          rw [reachedBelow_eq, cut] at nothing
          exact absurd nothing (by simp)
      | true =>
          rw [descended, if_pos rfl, List.singleton_append, List.cons_eq_append_iff] at cut
          rcases cut with ⟨-, here⟩ | ⟨later, first, cut⟩
          · obtain ⟨same, -⟩ := List.cons.inj here
            subst same
            exact .inl member
          · obtain ⟨before, child, after, inner, rest, split, found, place⟩ :=
              exists_part_of_flatMap cut
            have isChild : child ∈ tree.children := by simp [split]
            have earlier : ∀ reached ∈ inner, reached ∈ early := by
              intro reached within
              rw [first, place]
              exact List.mem_cons_of_mem _ (List.mem_append_right _ within)
            rcases induction child isChild _ found node member with outer | ⟨reached, within, same⟩
            · rcases List.mem_append.mp outer with outer | own
              · exact .inl outer
              · refine .inr ⟨⟨above, tree⟩, ?_, (List.mem_singleton.mp own).symm⟩
                rw [first]
                exact List.mem_cons_self
            · exact .inr ⟨reached, earlier reached within, same⟩

theorem mem_occurrences_of_ancestor {tree : Node} {occurrence : Occurrence}
    (member : occurrence ∈ tree.occurrences) :
    ∀ above ∈ occurrence.ancestors, ∃ outer ∈ tree.occurrences, outer.node = above := by
  have all : tree.reached (fun _ => true) = tree.occurrences := by
    rw [reached, List.filter_eq_self]
    exact fun _ _ => List.all_eq_true.mpr fun _ _ => rfl
  obtain ⟨early, late, cut⟩ := List.append_of_mem member
  intro above isAbove
  obtain ⟨outer, before, same⟩ := reached_ancestors (all.trans cut) above isAbove
  exact ⟨outer, cut ▸ List.mem_append_left _ before, same⟩

end Node

/-! ## Watching a walk -/

namespace Walker

/-- The walker with a record of the nodes that it enters. -/
def watched (walker : Walker σ) : Walker (σ × List Node) where
  enter node state :=
    let (descends, entered) := walker.enter node state.1
    (descends, entered, state.2 ++ [node])
  leave node state := (walker.leave node state.1, state.2)

theorem enter_watched (walker : Walker σ) (node : Node) (state : σ × List Node) :
    walker.watched.enter node state =
      ((walker.enter node state.1).1, (walker.enter node state.1).2, state.2 ++ [node]) := rfl

end Walker

/-- The record of a walk holds the nodes that are reached, in preorder. -/
theorem Node.walk_watched {walker : Walker σ} {descends : Node → Bool}
    (answers : ∀ node state, (walker.enter node state).1 = descends node)
    (leaves : ∀ node state, walker.leave node state = state) (tree : Node) (state : σ)
    (record : List Node) :
    tree.walk walker.watched (state, record) =
      (tree.walk walker state, record ++ (tree.reached descends).map (·.node)) := by
  have watchedAnswers : ∀ node state, (walker.watched.enter node state).1 = descends node :=
    fun node state => answers node state.1
  have watchedLeaves : ∀ node state, walker.watched.leave node state = state :=
    fun node state => Prod.ext (leaves node state.1) rfl
  rw [walk_eq_foldl_reached watchedAnswers watchedLeaves, walk_eq_foldl_reached answers leaves]
  induction tree.reached descends generalizing state record with
  | nil => simp
  | cons first rest induction =>
      rw [List.foldl_cons, List.foldl_cons, Walker.enter_watched, induction, List.map_cons,
        List.append_assoc, List.singleton_append]

end CodeGraph
