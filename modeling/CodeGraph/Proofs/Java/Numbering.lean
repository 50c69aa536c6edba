import CodeGraph.Proofs.Java.Places

/-!
# The numbers of anonymous classes

In the outline of a source the anonymous classes of a type have the numbers from one on, in the
order in which they appear.  An outlining in the type takes the numbers that follow those that
have been met before, however deep the creations are nested, and a type inside starts afresh.
-/

namespace CodeGraph.Java

/-- The anonymous classes among nodes that stand below no type. -/
def anonymousAmong (nodes : List Node) : List Node :=
  (Node.topmost nodes).filter (·.kind == .anonymousClassDeclaration)

/-- The anonymous classes are in the type, and they have `count` numbers from `first` on. -/
def Numbered (type : Option String) (first count : Nat) (nodes : List Node) : Prop :=
  (anonymousAmong nodes).map (fun node => (node.qualifiedName, node.declaringType)) =
    (List.range' first count).map fun number => (type.map (· ++ "$" ++ toString number), type)

namespace Numbered

variable {type : Option String} {first count more : Nat}

theorem append {nodes others : List Node} (here : Numbered type first count nodes)
    (later : Numbered type (first + count) more others) :
    Numbered type first (count + more) (nodes ++ others) := by
  unfold Numbered anonymousAmong at here later ⊢
  rw [Node.topmost_append, List.filter_append, List.map_append, here, later, ← List.map_append,
    List.range'_append_1]

/-- A node that is no type does not come between. -/
theorem single_of_not_isType {node : Node} (other : node.kind.isType = false) :
    Numbered type first count [node] ↔ Numbered type first count node.children := by
  have notAnonymous : (node.kind == .anonymousClassDeclaration) = false :=
    (Bool.or_eq_false_iff.mp other).2
  rw [Numbered, anonymousAmong, Node.topmost_singleton, other,
    List.filter_cons_of_neg (by simp [notAnonymous])]
  rfl

/-- What stands in a named type is not counted around it. -/
theorem single_of_isNamedType {node : Node} (named : node.kind.isNamedType = true) :
    Numbered type first 0 [node] := by
  have notAnonymous : node.kind ≠ .anonymousClassDeclaration := by
    intro anonymous
    rw [anonymous] at named
    cases named
  rw [Numbered, anonymousAmong, Node.topmost_singleton, Kind.isType, named, Bool.true_or,
    if_pos rfl, List.filter_cons_of_neg (by simpa using notAnonymous)]
  rfl

theorem single_of_anonymous {node : Node} {outer : String}
    (anonymous : node.kind = .anonymousClassDeclaration)
    (named : node.qualifiedName = some (outer ++ "$" ++ toString first))
    (inside : node.declaringType = some outer) : Numbered (some outer) first 1 [node] := by
  have isType : node.kind.isType = true := by rw [anonymous]; rfl
  rw [Numbered, anonymousAmong, Node.topmost_singleton, isType, if_pos rfl,
    List.filter_cons_of_pos (by rw [anonymous]; rfl), List.filter_nil, List.map_singleton, named,
    inside]
  rfl

end Numbered

/-- If the node is a type, the anonymous classes in it have the numbers from one on. -/
def NumbersOwn (node : Node) : Prop :=
  node.kind.isType = true → ∃ qualified count, node.qualifiedName = some qualified ∧
    Numbered (some qualified) 1 count node.children

/-- All types in the trees number the anonymous classes in them. -/
def AllNumberOwn (nodes : List Node) : Prop :=
  ∀ node ∈ nodes, ∀ occurrence ∈ node.occurrences, NumbersOwn occurrence.node

namespace AllNumberOwn

theorem nil : AllNumberOwn [] := fun _ member => absurd member List.not_mem_nil

theorem append {first second : List Node} (here : AllNumberOwn first)
    (later : AllNumberOwn second) : AllNumberOwn (first ++ second) :=
  fun node member => (List.mem_append.mp member).elim (here node) (later node)

theorem single {node : Node} (here : NumbersOwn node) (below : AllNumberOwn node.children) :
    AllNumberOwn [node] := by
  intro only member occurrence within
  rw [List.mem_singleton] at member
  subst only
  rw [Node.occurrences, Node.occurrencesBelow_eq] at within
  rcases List.mem_cons.mp within with rfl | later
  · exact here
  · obtain ⟨child, isChild, inChild⟩ := List.mem_flatMap.mp later
    rw [Node.occurrencesBelow_eq_map] at inChild
    obtain ⟨inner, inside, rfl⟩ := List.mem_map.mp inChild
    exact below child isChild inner inside

end AllNumberOwn

/-! ## Outlinings that number what they find -/

/-- In the type, an outlining that meets this gives the bodies of anonymous classes the numbers
after those that have been met before. -/
structure Outlining.Numbers (action : Outlining (List Node)) (type : Option String) (met : Met) :
    Prop where
  numbered : ∀ progress,
    Numbered type (progress.anonymous + 1) met.bodies (action.run progress).1
  inside : action.Yields AllNumberOwn

namespace Outlining.Numbers

variable {type : Option String} {met more : Met}

theorem nothing : Numbers (pure []) type {} := ⟨fun _ => rfl, .pure .nil⟩

theorem append {first second : Outlining (List Node)} (meets : first.Meets met)
    (here : first.Numbers type met) (later : second.Numbers type more) :
    Numbers (do
      let nodes ← first
      return nodes ++ (← second)) type (met ++ more) where
  numbered progress := by
    have reached : (first.run progress).2.anonymous = progress.anonymous + met.bodies :=
      congrArg Progress.anonymous (meets progress)
    have rest := later.numbered (first.run progress).2
    rw [reached, Nat.add_right_comm] at rest
    exact (here.numbered progress).append rest
  inside :=
    here.inside.bind fun _ before => later.inside.bind fun _ after => .pure (before.append after)

/-- A type starts afresh, and what is in it is not counted around it. -/
theorem afresh {action : Outlining (List Node)} {node : Node} {qualified : String}
    (named : node.qualifiedName = some qualified)
    (inner : action.Numbers (some qualified) met) :
    (Scope.afresh action >>= fun nodes =>
      pure [{ node with children := nodes }] : Outlining (List Node)).Yields AllNumberOwn :=
  fun _ => .single (fun _ => ⟨qualified, met.bodies, named, inner.numbered {}⟩) (inner.inside {})

/-- A node that is no type does not come between. -/
theorem around {action : Outlining (List Node)} (numbers : action.Numbers type met) {node : Node}
    (other : node.kind.isType = false) :
    Numbers (do return [{ node with children := ← action }]) type met where
  numbered progress := by
    let whole : Node := { node with children := (action.run progress).1 }
    have noType : whole.kind.isType = false := other
    exact (Numbered.single_of_not_isType noType).mpr (numbers.numbered progress)
  inside progress := by
    refine .single (fun isType => ?_) (numbers.inside progress)
    change node.kind.isType = true at isType
    rw [other] at isType
    cases isType

theorem withLocals {action : Outlining (List Node)} (numbers : action.Numbers type met)
    (locals : OrderedMap String) :
    (Scope.withLocals locals action).Numbers type { bodies := met.bodies } where
  numbered progress := numbers.numbered { progress with locals }
  inside := numbers.inside.withLocals locals

theorem single {node : Node} (named : node.kind.isNamedType = true) {action : Outlining (List Node)}
    (inner : (action >>= fun nodes => pure [{ node with children := nodes }] :
      Outlining (List Node)).Yields AllNumberOwn) :
    Numbers (do return [{ node with children := ← action }]) type {} where
  numbered progress := by
    let whole : Node := { node with children := (action.run progress).1 }
    have isNamed : whole.kind.isNamedType = true := named
    exact Numbered.single_of_isNamedType isNamed
  inside := inner

/-- The node around, if there is one, may depend on the local variables. -/
theorem plain {parts : Outlining (List Node)} (numbers : parts.Numbers type met)
    {node : OrderedMap String → Option Node}
    (other : ∀ locals found, node locals = some found → found.kind.isType = false)
    (declared : List (String × String)) :
    Numbers (do
      let before ← get
      set { before with locals := insertAll before.locals declared }
      let nodes ← parts
      match node before.locals with
      | some node => return [{ node with children := nodes }]
      | none => return nodes) type (⟨declared, 0⟩ ++ met) := by
  refine ⟨fun progress => ?_, fun progress => ?_⟩
  · have inner := numbers.numbered { progress with locals := insertAll progress.locals declared }
    change Numbered type _ (0 + met.bodies)
      (Prod.fst ((match node progress.locals with
        | some node => _
        | none => _ : Outlining (List Node)).run _))
    rw [Nat.zero_add]
    cases chosen : node progress.locals with
    | none => exact inner
    | some found =>
        exact ((numbers.around (other _ _ chosen)).numbered
          { progress with locals := insertAll progress.locals declared })
  · change AllNumberOwn (Prod.fst ((match node progress.locals with
      | some node => _
      | none => _ : Outlining (List Node)).run _))
    cases chosen : node progress.locals with
    | none => exact numbers.inside _
    | some found => exact (numbers.around (other _ _ chosen)).inside _

end Outlining.Numbers

namespace Scope

/-- In every scope the outlining of the tree numbers the anonymous classes that it meets. -/
def Counted (tree : Tree) : Prop :=
  ∀ scope : Scope, (scope.outline tree).Numbers scope.currentType (scope.met tree)

theorem numbers_outlineParts {scope : Scope} {creation : Option Tree} {parts : List Tree}
    (each : ∀ part ∈ parts,
      (scope.outlinePart creation part).Numbers scope.currentType (scope.metPart creation part)) :
    (scope.outlineParts creation parts).Numbers scope.currentType
      (scope.metParts creation parts) := by
  induction parts with
  | nil => exact .nothing
  | cons part parts induction =>
      obtain ⟨first, rest⟩ := List.forall_mem_cons.mp each
      rw [outlineParts, metParts_cons]
      exact .append (meets_outlinePart creation (meets_outline scope part)) first (induction rest)

theorem numbers_outlineAll (scope : Scope) {trees : List Tree}
    (each : ∀ tree ∈ trees, Counted tree) :
    (scope.outlineAll trees).Numbers scope.currentType (scope.metParts none trees) := by
  rw [outlineAll_eq]
  exact numbers_outlineParts fun tree member => each tree member scope

/-- The number of an anonymous class is taken before its body is entered. -/
theorem numbers_outlinePart (scope : Scope) (creation : Option Tree) {part : Tree}
    (whole : Counted part) (each : ∀ child ∈ part.children, Counted child) :
    (scope.outlinePart creation part).Numbers scope.currentType
      (scope.metPart creation part) := by
  rw [outlinePart, metPart]
  cases found : scope.anonymous? creation part with
  | none => exact whole scope
  | some body =>
      obtain ⟨created, outer⟩ := body
      obtain ⟨-, -, current⟩ := currentType_of_anonymous? found
      have inner (number : Nat) :=
        (scope.anonymousNode created outer number part).2.numbers_outlineAll each
      refine ⟨fun progress => ?_, .bind_any fun progress => .bind_any fun _ => ?_⟩
      · rw [current]
        exact Numbered.single_of_anonymous rfl rfl rfl
      · exact Outlining.Numbers.afresh rfl (inner _)

theorem numbers_outlineMembers (scope : Scope) {trees : List Tree}
    (each : ∀ tree ∈ trees, ∀ child ∈ tree.children, Counted child) :
    ∃ met, (scope.outlineMembers trees).Numbers scope.currentType met := by
  induction trees with
  | nil => exact ⟨{}, .nothing⟩
  | cons tree trees induction =>
      obtain ⟨first, rest⟩ := List.forall_mem_cons.mp each
      rcases tree with ⟨construct, span, role, children⟩
      rw [outlineMembers]
      split
      · exact ⟨_, scope.numbers_outlineAll first⟩
      · exact induction rest

theorem numbers_outlineBody (scope : Scope) {trees : List Tree}
    (each : ∀ tree ∈ trees, Counted tree) :
    (scope.outlineBody trees).Numbers scope.currentType (scope.metBody trees) := by
  induction trees with
  | nil => exact .nothing
  | cons tree trees induction =>
      obtain ⟨first, rest⟩ := List.forall_mem_cons.mp each
      rw [outlineBody, metBody]
      split
      · exact first scope
      · exact induction rest

theorem not_isType_of_opening {scope : Scope} {tree : Tree}
    {node : OrderedMap String → Option Node} (opens : scope.opening tree = .plain node)
    {locals : OrderedMap String} {found : Node} (here : node locals = some found) :
    found.kind.isType = false := by
  unfold opening at opens
  split at opens
  case h_1 | h_2 | h_3 => cases opens
  case h_4 | h_5 | h_6 | h_7 | h_8 =>
    split at opens <;> cases opens
    cases here
  case h_9 | h_10 | h_11 =>
    split at opens <;> cases opens
    cases here
  case h_12 =>
    cases opens
    obtain ⟨name, -, rfl⟩ := Option.map_eq_some_iff.mp here
    obtain ⟨kind, owner, isCall, same⟩ := scope.methodCall_eq locals tree name
    rw [same]
    exact Kind.isType_of_not_opensScope (Kind.opensScope_of_isCall isCall)
  case h_13 =>
    cases opens
    cases here
    obtain ⟨kind, owner, isCall, same⟩ := scope.constructorCall_eq tree
    rw [same]
    exact Kind.isType_of_not_opensScope (Kind.opensScope_of_isCall isCall)
  case h_14 =>
    cases opens
    cases here
    rfl
  case h_15 =>
    cases opens
    exact Kind.isType_of_not_opensScope (plain_of_plainNode? here).1

theorem counted (tree : Tree) : Counted tree ∧ ∀ child ∈ tree.children, Counted child := by
  -- a type or an anonymous class outlines what stands two levels below, in the body
  induction tree using Tree.induction with
  | step tree induction =>
      have each := fun child member => (induction child member).1
      refine ⟨fun scope => ?_, each⟩
      rw [outline_eq, met_eq]
      cases opens : scope.opening tree with
      | leaf node =>
          cases found : scope.leafNode? tree with
          | none =>
              rw [eq_leafNode?_of_opening opens, found]
              exact .nothing
          | some leaf =>
              obtain ⟨closed, -, empty⟩ := plain_of_leafNode? found
              rw [eq_leafNode?_of_opening opens, found]
              have alone : leaf = { leaf with children := [] } := by
                cases leaf
                cases empty
                rfl
              rw [alone]
              exact Outlining.Numbers.nothing.around (Kind.isType_of_not_opensScope closed)
      | type node inside =>
          obtain ⟨name, -, same⟩ := of_opening_type opens
          obtain ⟨rfl, rfl⟩ := Prod.mk.inj same
          obtain ⟨met, members⟩ := numbers_outlineMembers
            (scope.typeNode (typeKind tree.construct) tree name).2
            fun child member => (induction child member).2
          exact .single (isNamedType_typeKind tree.construct)
            (Outlining.Numbers.afresh rfl members)
      | method node inside locals =>
          obtain ⟨owner, name, -, -, rfl, rfl, rfl⟩ := of_opening_method opens
          have body := (scope.inMethod (member name owner)).numbers_outlineBody each
          exact (body.withLocals _).around rfl
      | plain node =>
          have parts : (scope.outlineParts tree.creation? tree.children).Numbers
              scope.currentType (scope.metParts tree.creation? tree.children) := by
            refine numbers_outlineParts fun part member => ?_
            obtain ⟨whole, inner⟩ := induction part member
            exact scope.numbers_outlinePart _ whole inner
          have other : ∀ locals found, node locals = some found → found.kind.isType = false :=
            fun _ _ here => not_isType_of_opening opens here
          exact parts.plain other (scope.declaredLocals tree)

end Scope

theorem allNumberOwn_outline (file : String) (source : Source) (tree : Tree) :
    AllNumberOwn [outline file source tree] := by
  let scope : Scope := { source, file }
  have counted : ∀ child ∈ tree.children, Scope.Counted child := (Scope.counted tree).2
  exact .single nofun ((scope.numbers_outlineAll counted).inside {})

/-- In the outline of any source the anonymous classes directly in a type have, in preorder, the
name of the type with the numbers from one on, and declare the type as theirs. -/
theorem outline_numbers_anonymous (file : String) (source : Source) (tree : Tree) :
    ∀ type ∈ (outline file source tree).occurrences, type.node.kind.isType = true →
      ∃ qualified, type.node.qualifiedName = some qualified ∧
        let anonymous := type.node.own.filter (·.kind == .anonymousClassDeclaration)
        anonymous.map (fun node => (node.qualifiedName, node.declaringType)) =
          (List.range' 1 anonymous.length).map fun number =>
            (some (qualified ++ "$" ++ toString number), some qualified) := by
  intro type member isType
  obtain ⟨qualified, count, named, numbered⟩ :=
    allNumberOwn_outline file source tree _ List.mem_cons_self type member isType
  refine ⟨qualified, named, ?_⟩
  have size := congrArg List.length numbered
  rw [List.length_map, List.length_map, List.length_range'] at size
  intro anonymous
  have counted : anonymous.length = count := size
  rw [counted]
  exact numbered

/-- An instance is created in the arguments of another, and one in a lambda expression.  What is
in the local class is not counted. -/
theorem outline_numbers_anonymous_nested :
    let chars := ("class A\x7bvoid f()\x7bg(new B(new C()\x7b\x7d)\x7b\x7d,()->new D()\x7b\x7d);" ++
      "class L\x7bObject o=new E()\x7b\x7d;\x7d\x7d\x7d").toList
    ∃ tree, Tree.ofChars? chars = some tree ∧
      ∃ type ∈ (outline "A.java" (.ofTree chars.toArray tree) tree).occurrences,
        type.node.kind.isType = true ∧ type.node.qualifiedName = some "A" ∧
          (type.node.own.filter (·.kind == .anonymousClassDeclaration)).map
              (fun node => (node.qualifiedName, node.declaringType)) =
            [(some "A$1", some "A"), (some "A$2", some "A"), (some "A$3", some "A")] := by
  intro chars
  have found : ∃ tree ∈ Tree.ofChars? chars,
      ∃ type ∈ (outline "A.java" (.ofTree chars.toArray tree) tree).occurrences,
        type.node.kind.isType = true ∧ type.node.qualifiedName = some "A" ∧
          (type.node.own.filter (·.kind == .anonymousClassDeclaration)).length = 3 := by
    decide +kernel
  obtain ⟨tree, parsed, type, isThere, isType, named, size⟩ := found
  obtain ⟨qualified, same, numbered⟩ := outline_numbers_anonymous _ _ _ type isThere isType
  cases Option.some.inj (named.symm.trans same)
  refine ⟨tree, parsed, type, isThere, isType, named, ?_⟩
  rw [numbered, size]
  rfl

end CodeGraph.Java
