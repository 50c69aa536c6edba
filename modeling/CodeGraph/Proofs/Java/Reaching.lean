import CodeGraph.Proofs.Java.Bodies
import CodeGraph.Proofs.Java.Declaring
import CodeGraph.Proofs.Java.Sourced
import CodeGraph.Proofs.Java.Ways

/-!
# Parts that an outline reaches

An outline skips the head of a declaration, and makes an anonymous class of the body in a creation.
It comes to every other part of the source, on a way that goes through the trees around the part.
-/

namespace CodeGraph.Java

/-! ## Ways and the trees around -/

/-- The trees that a step goes into, the innermost first. -/
def Step.trees : Step → List Tree
  | .top _ => []
  | .part parent _ => [parent]
  | .body method => [method]
  | .member type inside _ => [inside, type]
  | .anonymous _ inside _ => [inside]

/-- The trees around the place to which a way leads, the innermost first. -/
def treesAround (way : List Step) : List Tree := way.flatMap Step.trees

def Step.isAnonymous : Step → Bool
  | .anonymous _ _ _ => true
  | _ => false

/-- The way does not go through the body of an anonymous class. -/
def Outside (way : List Step) : Prop := ∀ step ∈ way, step.isAnonymous = false

theorem Outside.cons {step : Step} {way : List Step} (here : step.isAnonymous = false)
    (outside : Outside way) : Outside (step :: way) :=
  List.forall_mem_cons.mpr ⟨here, outside⟩

/-! ## Parts that are skipped -/

/-- The children that are not outlined in the scope of the tree or of what it declares: all but the
body of a declaration, and the body in a creation. -/
def Tree.skipped (tree : Tree) : List Tree :=
  match tree.construct with
  | .packageDeclaration | .importDeclaration | .comment => tree.children
  | .classDeclaration | .interfaceDeclaration | .recordDeclaration | .enumDeclaration
  | .annotationTypeDeclaration | .methodDeclaration | .constructorDeclaration
  | .compactConstructor => tree.children.eraseP (·.role == some .body)
  | .instanceCreation => tree.children.filter (·.construct == .classBody)
  | _ => []

/-- The tree is inside of the root, with these trees around it, and none of them is skipped. -/
inductive Tree.Reached (root : Tree) : List Tree → Tree → Prop where
  | child {tree : Tree} : tree ∈ root.children → Reached root [] tree
  | deeper {around : List Tree} {parent tree : Tree} :
      Reached root around parent → tree ∈ parent.children → tree ∉ parent.skipped →
      Reached root (parent :: around) tree

/-- Without the first child with a role, a child is left unless it is this one. -/
theorem Tree.child?_of_notMem_eraseP {parent tree : Tree} {role : Role}
    (isChild : tree ∈ parent.children)
    (erased : tree ∉ parent.children.eraseP (·.role == some role)) :
    parent.child? role = some tree := by
  let inRole : Tree → Bool := (·.role == some role)
  have isRole : inRole tree = true := by
    by_contra other
    exact erased ((List.mem_eraseP_of_neg (p := inRole) other).mpr isChild)
  obtain ⟨first, before, after, early, here, split, rest⟩ := List.exists_of_eraseP isChild isRole
  have others : parent.children.eraseP inRole = before ++ after := rest
  rw [others, List.mem_append, not_or] at erased
  rw [split, List.mem_append, List.mem_cons] at isChild
  have same : tree = first := (isChild.resolve_left erased.1).resolve_right erased.2
  rw [child?, split, same]
  exact List.find?_eq_some_iff_append.mpr ⟨here, before, after, rfl, fun earlier member => by
    simpa [inRole] using early earlier member⟩

namespace Scope

variable {scope inside : Scope} {parent tree : Tree} {node : Node}

theorem skipped_of_opening_leaf {node : Option Node}
    (opens : scope.opening parent = .leaf node) : parent.skipped = parent.children := by
  unfold opening at opens
  split at opens
  case h_1 same | h_2 same | h_3 same => rw [Tree.skipped, same]
  case h_4 | h_5 | h_6 | h_7 | h_8 | h_9 | h_10 | h_11 => split at opens <;> cases opens
  all_goals cases opens

theorem skipped_of_opening_type (opens : scope.opening parent = .type node inside) :
    parent.skipped = parent.children.eraseP (·.role == some .body) := by
  unfold opening at opens
  split at opens
  case h_4 same | h_5 same | h_6 same | h_7 same | h_8 same => rw [Tree.skipped, same]
  case h_9 | h_10 | h_11 => split at opens <;> cases opens
  all_goals cases opens

theorem skipped_of_opening_method {locals : OrderedMap String}
    (opens : scope.opening parent = .method node inside locals) :
    parent.skipped = parent.children.eraseP (·.role == some .body) := by
  unfold opening at opens
  split at opens
  case h_9 same | h_10 same | h_11 same => rw [Tree.skipped, same]
  case h_4 | h_5 | h_6 | h_7 | h_8 => split at opens <;> cases opens
  all_goals cases opens

theorem anonymous?_of_notMem_skipped (scope : Scope) (isChild : tree ∈ parent.children)
    (kept : tree ∉ parent.skipped) : scope.anonymous? parent.creation? tree = none := by
  by_cases creates : parent.construct = .instanceCreation
  · refine scope.anonymous?_of_other _ fun isBody => kept ?_
    rw [Tree.skipped, creates]
    exact List.mem_filter.mpr ⟨isChild, beq_iff_eq.mpr isBody⟩
  · rw [Tree.creation?, if_neg creates]
    rfl

end Scope

/-! ## Places in places -/

/-- The list has, with each place that is no anonymous class, all places in it. -/
def Closed (start : Scope) (list : List Place) : Prop :=
  ∀ place ∈ list,
    (Standing.along start place.way).scope.anonymous? (place.way.head?.bind Step.creation?)
      place.tree = none →
    placesIn start place.way place.tree ⊆ list

section

variable {start : Scope}

theorem closed_nil : Closed start [] := fun _ member => absurd member List.not_mem_nil

theorem Closed.append {first second : List Place} (early : Closed start first)
    (late : Closed start second) : Closed start (first ++ second) := by
  intro place member apart
  rcases List.mem_append.mp member with here | later
  · exact fun _ inside => List.mem_append_left _ (early place here apart inside)
  · exact fun _ inside => List.mem_append_right _ (late place later apart inside)

theorem Closed.cons {way : List Step} {tree : Tree} {below : List Place}
    (whole : placesIn start way tree = ⟨way, tree⟩ :: below) (rest : Closed start below) :
    Closed start (placesIn start way tree) := by
  intro place member apart
  rw [whole] at member
  rcases List.mem_cons.mp member with rfl | inside
  · exact List.Subset.refl _
  · rw [whole]
    exact fun _ within => List.mem_cons_of_mem _ (rest place inside apart within)

theorem closed_inside {way : List Step} {step : List Tree → Step} {trees : List Tree}
    (each : ∀ tree ∈ trees, ∀ way, Closed start (placesIn start way tree))
    (before : List Tree) : Closed start (placesInside start way step before trees) := by
  induction trees generalizing before with
  | nil =>
    rw [placesInside]
    exact closed_nil
  | cons tree trees induction =>
    obtain ⟨first, rest⟩ := List.forall_mem_cons.mp each
    rw [placesInside]
    exact (first _).append (induction rest _)

theorem closed_parts {way : List Step} {parent : Tree} {parts : List Tree}
    (each : ∀ part ∈ parts, (∀ way, Closed start (placesIn start way part)) ∧
      ∀ child ∈ part.children, ∀ way, Closed start (placesIn start way child))
    (before : List Tree) : Closed start (placesOfParts start way parent before parts) := by
  induction parts generalizing before with
  | nil =>
    rw [placesOfParts]
    exact closed_nil
  | cons part parts induction =>
    obtain ⟨⟨whole, inner⟩, rest⟩ := List.forall_mem_cons.mp each
    rw [placesOfParts_cons]
    refine Closed.append ?_ (induction rest _)
    split
    next created outer found =>
      intro place member apart
      rcases List.mem_cons.mp member with rfl | inside
      · have anonymous : some (created, outer) = none := found.symm.trans apart
        cases anonymous
      · exact fun _ below => List.mem_cons_of_mem _ (closed_inside inner _ place inside apart below)
    next => exact whole _

theorem closed_placesIn (tree : Tree) :
    (∀ way, Closed start (placesIn start way tree)) ∧
      ∀ child ∈ tree.children, ∀ way, Closed start (placesIn start way child) := by
  induction tree using Tree.induction with
  | step tree induction =>
    have each := fun child member => (induction child member).1
    refine ⟨fun way => ?_, each⟩
    refine .cons (placesIn_eq start way tree) ?_
    cases (Standing.along start way).scope.opening tree with
    | leaf => exact closed_nil
    | type =>
      dsimp only
      rw [placesOfMembers_eq]
      split
      next => exact closed_nil
      next body found =>
        exact closed_inside (induction body (List.mem_of_find?_eq_some found)).2 _
    | method =>
      dsimp only
      rw [placesOfBody_eq]
      split
      next => exact closed_nil
      next body found => exact each body (List.mem_of_find?_eq_some found) _
    | plain => exact closed_parts induction _

theorem closed_places (root : Tree) : Closed start (places start root) :=
  closed_inside (fun tree _ => (closed_placesIn tree).1) _

theorem self_mem_placesIn (way : List Step) (tree : Tree) :
    ⟨way, tree⟩ ∈ placesIn start way tree := by
  rw [placesIn_eq]
  exact List.mem_cons_self

theorem mem_placesInside (start : Scope) (way : List Step) (step : List Tree → Step)
    {trees : List Tree} {tree : Tree} (member : tree ∈ trees) (before : List Tree) :
    ∃ earlier, ⟨step earlier :: way, tree⟩ ∈ placesInside start way step before trees := by
  induction trees generalizing before with
  | nil => cases member
  | cons first trees induction =>
    rw [placesInside]
    rcases List.mem_cons.mp member with rfl | later
    · exact ⟨before, List.mem_append_left _ (self_mem_placesIn _ _)⟩
    · obtain ⟨earlier, inside⟩ := induction later (before ++ [first])
      exact ⟨earlier, List.mem_append_right _ inside⟩

theorem mem_placesOfParts {way : List Step} {parent tree : Tree} {parts : List Tree}
    (member : tree ∈ parts)
    (apart : (Standing.along start way).scope.anonymous? parent.creation? tree = none)
    (before : List Tree) :
    ∃ earlier, ⟨.part parent earlier :: way, tree⟩ ∈
      placesOfParts start way parent before parts := by
  induction parts generalizing before with
  | nil => cases member
  | cons first parts induction =>
    rw [placesOfParts_cons]
    rcases List.mem_cons.mp member with rfl | later
    · rw [apart]
      exact ⟨before, List.mem_append_left _ (self_mem_placesIn _ _)⟩
    · obtain ⟨earlier, inside⟩ := induction later (before ++ [first])
      exact ⟨earlier, List.mem_append_right _ inside⟩

theorem mem_placesOfMembers (start : Scope) (way : List Step) {type body tree : Tree}
    (found : type.child? .body = some body) (member : tree ∈ body.children) :
    ∃ earlier, ⟨.member type body earlier :: way, tree⟩ ∈
      placesOfMembers start way type type.children := by
  rw [placesOfMembers_eq, ← Tree.child?, found]
  exact mem_placesInside start way _ member []

/-! ## Parts that are reached -/

variable {root : Tree}

/-- The outline comes to the tree, on a way through the trees around it and outside of anonymous
classes. -/
structure Arrives (start : Scope) (root : Tree) (around : List Tree) (place : Place) : Prop where
  isPlace : place ∈ places start root
  around : treesAround place.way = around
  outside : Outside place.way
  apart : (Standing.along start place.way).scope.anonymous? (place.way.head?.bind Step.creation?)
    place.tree = none

theorem Arrives.mem_places {around : List Tree} {place inner : Place}
    (arrives : Arrives start root around place)
    (below : inner ∈ placesIn start place.way place.tree) : inner ∈ places start root :=
  closed_places root place arrives.isPlace arrives.apart below

/-- What is in a place and not skipped is a place, or it is the body of a type. -/
theorem Arrives.deeper {around : List Tree} {place : Place} {tree : Tree}
    (arrives : Arrives start root around place) (isChild : tree ∈ place.tree.children)
    (kept : tree ∉ place.tree.skipped) :
    (∃ inner, inner.tree = tree ∧ Arrives start root (place.tree :: around) inner) ∨
      ∃ node inside, (Standing.along start place.way).scope.opening place.tree =
        .type node inside ∧ place.tree.child? .body = some tree := by
  have isIn (inner : Place) (below : inner ∈ placesIn start place.way place.tree) :
      inner ∈ places start root := arrives.mem_places below
  rw [placesIn_eq] at isIn
  cases opens : (Standing.along start place.way).scope.opening place.tree with
  | leaf node =>
    rw [Scope.skipped_of_opening_leaf opens] at kept
    exact absurd isChild kept
  | type node inside =>
    rw [Scope.skipped_of_opening_type opens] at kept
    exact .inr ⟨node, inside, rfl, Tree.child?_of_notMem_eraseP isChild kept⟩
  | method node inside locals =>
    rw [Scope.skipped_of_opening_method opens] at kept
    have isBody := Tree.child?_of_notMem_eraseP isChild kept
    refine .inl ⟨⟨.body place.tree :: place.way, tree⟩, rfl, ?_, ?_, .cons rfl arrives.outside, rfl⟩
    · refine isIn _ (List.mem_cons_of_mem _ ?_)
      rw [opens]
      dsimp only
      rw [placesOfBody_eq, ← Tree.child?, isBody]
      exact self_mem_placesIn ..
    · exact congrArg (place.tree :: ·) arrives.around
  | plain node =>
    have apart := (Standing.along start place.way).scope.anonymous?_of_notMem_skipped isChild kept
    obtain ⟨earlier, inside⟩ := mem_placesOfParts isChild apart []
    refine .inl ⟨⟨.part place.tree earlier :: place.way, tree⟩, rfl, ?_, ?_,
      .cons rfl arrives.outside, apart⟩
    · refine isIn _ (List.mem_cons_of_mem _ ?_)
      rw [opens]
      exact inside
    · exact congrArg (place.tree :: ·) arrives.around

theorem Arrives.member {around : List Tree} {place : Place} {body tree : Tree} {node : Node}
    {inside : Scope} (arrives : Arrives start root around place)
    (opens : (Standing.along start place.way).scope.opening place.tree = .type node inside)
    (found : place.tree.child? .body = some body) (isChild : tree ∈ body.children) :
    ∃ inner, inner.tree = tree ∧ Arrives start root (body :: place.tree :: around) inner := by
  obtain ⟨earlier, isIn⟩ := mem_placesOfMembers start place.way found isChild
  refine ⟨⟨.member place.tree body earlier :: place.way, tree⟩, rfl, arrives.mem_places ?_, ?_,
    .cons rfl arrives.outside, rfl⟩
  · rw [placesIn_eq, opens]
    exact List.mem_cons_of_mem _ isIn
  · exact congrArg ([body, place.tree] ++ ·) arrives.around

/-- What is reached is a place, or it is the body of a type. -/
theorem Tree.Reached.arrives {around : List Tree} {tree : Tree}
    (reached : root.Reached around tree) :
    (∃ place, place.tree = tree ∧ Arrives start root around place) ∨
      ∃ place outer node inside, around = place.tree :: outer ∧
        Arrives start root outer place ∧
        (Standing.along start place.way).scope.opening place.tree = .type node inside ∧
        place.tree.child? .body = some tree := by
  induction reached with
  | child isChild =>
    obtain ⟨earlier, isPlace⟩ := mem_placesInside start [] .top isChild []
    exact .inl ⟨_, rfl, isPlace, rfl, .cons rfl fun _ none => (nomatch none), rfl⟩
  | deeper _ isChild kept induction =>
    rcases induction with ⟨place, rfl, arrives⟩ |
      ⟨place, outer, node, inside, rfl, arrives, opens, found⟩
    · rcases arrives.deeper isChild kept with inner | ⟨node, inside, opens, found⟩
      · exact .inl inner
      · exact .inr ⟨place, _, node, inside, rfl, arrives, opens, found⟩
    · exact .inl (arrives.member opens found isChild)

theorem Tree.Below.mem_subtrees {root tree : Tree} {around : List Tree}
    (below : root.Below around tree) :
    tree ∈ root.subtrees ∧ ∀ outer ∈ around, outer ∈ root.subtrees := by
  induction below with
  | child isChild =>
    exact ⟨Tree.subtrees_subset isChild (Tree.self_mem_subtrees _), fun _ none => nomatch none⟩
  | @deeper around parent tree _ isChild induction =>
    obtain ⟨inside, outside⟩ := induction
    exact ⟨Tree.mem_subtrees_of_mem_children inside isChild,
      List.forall_mem_cons.mpr ⟨inside, outside⟩⟩

theorem Tree.Reached.isBelow {around : List Tree} {tree : Tree}
    (reached : root.Reached around tree) : root.Below around tree := by
  induction reached with
  | child isChild => exact .child isChild
  | deeper _ isChild _ induction => exact induction.deeper isChild

/-- A method that is reached is a place. -/
theorem Tree.Reached.method (plain : root.BodiesPlain) {around : List Tree} {tree : Tree}
    (reached : root.Reached around tree) (declares : tree.construct = .methodDeclaration) :
    ∃ place, place.tree = tree ∧ Arrives start root around place := by
  refine reached.arrives.resolve_right ?_
  rintro ⟨place, outer, node, inside, -, -, -, found⟩
  have isBody : tree.role = some .body := by simpa using List.find?_some found
  exact (plain tree reached.isBelow.mem_subtrees.1 isBody).declares_nothing.2.2 declares

/-! ## Sources in which nothing is skipped -/

/-- No method and no type is declared in what is skipped. -/
def Tree.NothingSkipped (root : Tree) : Prop :=
  ∀ parent ∈ root.subtrees, ∀ child ∈ parent.skipped, ∀ part ∈ child.subtrees,
    part.construct ≠ .methodDeclaration ∧ Source.declaresType part.construct = false
deriving Decidable

theorem Tree.NothingSkipped.reached (nothing : root.NothingSkipped) {around : List Tree}
    {tree : Tree} (below : root.Below around tree) {part : Tree} (inside : part ∈ tree.subtrees)
    (declares : part.construct = .methodDeclaration) : root.Reached around tree := by
  induction below with
  | child isChild => exact .child isChild
  | deeper outer isChild induction =>
    refine .deeper (induction (Tree.subtrees_subset isChild inside)) isChild fun skipped => ?_
    exact (nothing _ outer.mem_subtrees.1 _ skipped part inside).1 declares

theorem Leads.mem_subtrees {way : List Step} {tree : Tree} (leads : Leads start root way tree) :
    tree ∈ root.subtrees := by
  induction leads with
  | top split => exact Tree.subtrees_subset (by simp [split]) (Tree.self_mem_subtrees _)
  | part _ _ _ split induction =>
    exact Tree.mem_subtrees_of_mem_children induction (by simp [split])
  | body _ _ isChild induction => exact Tree.mem_subtrees_of_mem_children induction isChild
  | member _ _ found split induction =>
    have body := Tree.mem_subtrees_of_mem_children induction (List.mem_of_find?_eq_some found)
    exact Tree.mem_subtrees_of_mem_children body (by simp [split])
  | anonymous _ _ split induction =>
    exact Tree.mem_subtrees_of_mem_children induction (by simp [split])

/-- Inside of anonymous classes, a place is in something that is skipped. -/
theorem Leads.in_skipped {way : List Step} {tree : Tree} (leads : Leads start root way tree)
    (inside : ¬ Outside way) :
    ∃ parent ∈ root.subtrees, ∃ child ∈ parent.skipped, tree ∈ child.subtrees := by
  induction leads with
  | top => exact absurd (.cons rfl fun _ none => nomatch none) inside
  | part _ _ _ split induction =>
    obtain ⟨outer, isPart, child, skipped, below⟩ := induction (inside ∘ .cons rfl)
    exact ⟨outer, isPart, child, skipped,
      Tree.mem_subtrees_of_mem_children below (by simp [split])⟩
  | body _ _ isChild induction =>
    obtain ⟨outer, isPart, child, skipped, below⟩ := induction (inside ∘ .cons rfl)
    exact ⟨outer, isPart, child, skipped, Tree.mem_subtrees_of_mem_children below isChild⟩
  | member _ _ found split induction =>
    obtain ⟨outer, isPart, child, skipped, below⟩ := induction (inside ∘ .cons rfl)
    have body := Tree.mem_subtrees_of_mem_children below (List.mem_of_find?_eq_some found)
    exact ⟨outer, isPart, child, skipped,
      Tree.mem_subtrees_of_mem_children body (by simp [split])⟩
  | @anonymous way parent created body tree earlier before after type leads found split =>
    have isChild : tree ∈ body.children := by simp [split]
    obtain ⟨creates, isBody, -⟩ := Scope.currentType_of_anonymous? found
    obtain ⟨isCreation, same⟩ := Option.ite_none_right_eq_some.mp creates
    cases leads with
    | part outer _ _ cut =>
      refine ⟨parent, outer.mem_subtrees, body, ?_,
        Tree.subtrees_subset isChild (Tree.self_mem_subtrees _)⟩
      rw [Tree.skipped, isCreation]
      exact List.mem_filter.mpr ⟨by simp [cut], beq_iff_eq.mpr isBody⟩

theorem Tree.NothingSkipped.outside (nothing : root.NothingSkipped) {way : List Step} {tree : Tree}
    (leads : Leads start root way tree)
    (declares : tree.construct = .methodDeclaration ∨
      Source.declaresType tree.construct = true) : Outside way := by
  by_contra inside
  obtain ⟨parent, isPart, child, skipped, below⟩ := leads.in_skipped inside
  obtain ⟨noMethod, noType⟩ := nothing parent isPart child skipped tree below
  rcases declares with method | type
  · exact noMethod method
  · exact absurd type (by simp [noType])

end

end CodeGraph.Java
