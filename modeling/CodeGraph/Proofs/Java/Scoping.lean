import CodeGraph.Java.Outline
import CodeGraph.Proofs.Java.Tree
import CodeGraph.Proofs.Node.Scope

/-!
# The scopes of Java outlines

In the outline of a source every declaration and every call states where it stands: the
type around it is the nearest one above it in the tree, and the method around a call is
the nearest one above it that is not cut off by a type.
-/

namespace CodeGraph

namespace Java

namespace Source

/-- The package of a source: what the last of its package declarations says. -/
def declaredPackage (source : Source) (tree : Tree) : String :=
  ((tree.children.filter (·.construct = .packageDeclaration)).getLast?.map
    source.packageName).getD ""

/-- Does some declaration in a tree give a type this name? -/
def NamesType (source : Source) (tree : Tree) (name : String) : Prop :=
  ∃ part ∈ tree.subtrees, declaresType part.construct = true ∧
    source.childText? part .name = some name

end Source

/-- What a node of an outline says about its place is what its place is. -/
structure Attributed (source : Source) (tree : Tree) (package : String)
    (occurrence : Occurrence) : Prop where
  namedType : occurrence.node.kind.isNamedType = true →
    occurrence.node.declaringType = occurrence.typeName? ∧
      ∃ name, source.NamesType tree name ∧ occurrence.node.name = some name ∧
        occurrence.node.qualifiedName =
          some (qualify (occurrence.typeName?.getD package) name)
  anonymousType : occurrence.node.kind = .anonymousClassDeclaration →
    ∃ outer number, occurrence.typeName? = some outer ∧
      occurrence.node.declaringType = some outer ∧
      occurrence.node.qualifiedName = some (outer ++ "$" ++ toString (number : Nat))
  method : occurrence.node.kind = .methodDeclaration →
    ∃ owner name, occurrence.typeName? = some owner ∧
      occurrence.node.declaringType = some owner ∧ occurrence.node.name = some name ∧
      occurrence.node.qualifiedName = some (owner ++ "." ++ name)
  call : occurrence.node.kind.isCall = true →
    occurrence.node.declaringType = occurrence.typeName? ∧
      occurrence.node.enclosingMethod = occurrence.methodName?

/-- A scope knows the nearest type and method among the nodes above. -/
structure Scope.Surrounds (scope : Scope) (above : List Node) : Prop where
  type : scope.currentType = (Node.nearestType? above).bind (·.qualifiedName)
  method : scope.method = (Node.nearestMethod? above).bind (·.qualifiedName)

namespace Scope.Surrounds

variable {scope : Scope} {above : List Node} {node : Node}

theorem below (surrounds : scope.Surrounds above) (closed : node.kind.opensScope = false) :
    scope.Surrounds (above ++ [node]) where
  type := by
    rw [Node.nearestType?_append_of_not_isType (Kind.isType_of_not_opensScope closed)]
    exact surrounds.type
  method := by
    rw [Node.nearestMethod?_append_of_other closed]
    exact surrounds.method

theorem inType (isType : node.kind.isType = true) {type : TypeScope}
    (named : node.qualifiedName = some type.qualified) (scope : Scope) (above : List Node) :
    (scope.inType type).Surrounds (above ++ [node]) where
  type := by
    rw [Node.nearestType?_append_of_isType isType]
    exact named.symm
  method := by
    rw [Node.nearestMethod?_append_of_isType isType]
    rfl

theorem inMethod (surrounds : scope.Surrounds above) (method : node.kind = .methodDeclaration)
    {name : String} (named : node.qualifiedName = some name) :
    (scope.inMethod name).Surrounds (above ++ [node]) where
  type := by
    rw [Node.nearestType?_append_of_not_isType (by rw [method]; rfl)]
    exact surrounds.type
  method := by
    rw [Node.nearestMethod?_append_of_method method]
    exact named.symm

end Scope.Surrounds

/-! ## Outlinings whose answer has a property -/

/-- Whatever has been met before, the answer has the property. -/
def Outlining.Yields {α : Type} (action : Outlining α) (property : α → Prop) : Prop :=
  ∀ progress, property (action.run progress).1

namespace Outlining.Yields

variable {α β : Type} {action : Outlining α} {property : α → Prop}

theorem pure {answer : α} (holds : property answer) :
    Yields (Pure.pure answer) property := fun _ => holds

theorem bind {next : α → Outlining β} {between : α → Prop} {after : β → Prop}
    (first : Yields action between) (rest : ∀ answer, between answer → Yields (next answer) after) :
    Yields (action >>= next) after :=
  fun progress => rest _ (first progress) _

/-- What a step answers may not matter. -/
theorem bind_any {next : α → Outlining β} {after : β → Prop}
    (rest : ∀ answer, Yields (next answer) after) : Yields (action >>= next) after :=
  fun progress => rest (action.run progress).1 _

theorem afresh (yields : Yields action property) : Yields (Scope.afresh action) property :=
  fun _ => yields {}

theorem withLocals (yields : Yields action property) (locals : OrderedMap String) :
    Yields (Scope.withLocals locals action) property :=
  fun progress => yields { progress with locals }

end Outlining.Yields

/-! ## The nodes of an outline -/

section

variable {source : Source} {root : Tree} {package : String}

/-- Every node of the trees, put below the nodes above, is attributed to its place. -/
def AllAttributed (source : Source) (root : Tree) (package : String) (above : List Node)
    (nodes : List Node) : Prop :=
  ∀ node ∈ nodes, ∀ occurrence ∈ node.occurrencesBelow above,
    Attributed source root package occurrence

theorem AllAttributed.nil {above : List Node} : AllAttributed source root package above [] :=
  fun _ member => nomatch member

theorem AllAttributed.append {above first second : List Node}
    (firstAll : AllAttributed source root package above first)
    (secondAll : AllAttributed source root package above second) :
    AllAttributed source root package above (first ++ second) := by
  intro node member
  rcases List.mem_append.mp member with early | late
  · exact firstAll node early
  · exact secondAll node late

theorem AllAttributed.single {above : List Node} {node : Node}
    (here : Attributed source root package ⟨above, node⟩)
    (below : AllAttributed source root package (above ++ [node]) node.children) :
    AllAttributed source root package above [node] := by
  intro only member occurrence within
  rw [List.mem_singleton] at member
  subst only
  rw [Node.occurrencesBelow_eq] at within
  rcases List.mem_cons.mp within with same | later
  · subst occurrence
    exact here
  · obtain ⟨child, isChild, inChild⟩ := List.mem_flatMap.mp later
    exact below child isChild occurrence inChild

/-- The children that a node gets are outlined below the node that has them. -/
theorem yields_node {action : Outlining (List Node)} {above : List Node} {node : Node}
    (here : ∀ children, Attributed source root package ⟨above, { node with children }⟩)
    (below : ∀ children,
      action.Yields (AllAttributed source root package (above ++ [{ node with children }]))) :
    Outlining.Yields (action >>= fun nodes => pure [{ node with children := nodes }])
      (AllAttributed source root package above) :=
  -- the node is only known once its children are, so both hold whatever these are
  fun progress => .single (here _) (below _ progress)

/-- Nodes of the remaining kinds say nothing about their place. -/
theorem Attributed.of_plain {occurrence : Occurrence}
    (closed : occurrence.node.kind.opensScope = false)
    (noCall : occurrence.node.kind.isCall = false) :
    Attributed source root package occurrence where
  namedType isNamed := by
    rw [Kind.opensScope, Kind.isType, isNamed] at closed
    cases closed
  anonymousType isAnonymous := by
    rw [isAnonymous] at closed
    cases closed
  method isMethod := by
    rw [isMethod] at closed
    cases closed
  call isCall := by
    rw [isCall] at noCall
    cases noCall

namespace Scope

theorem isNamedType_typeKind (construct : Construct) :
    (typeKind construct).isNamedType = true := by
  cases construct <;> rfl

theorem qualifiedName_typeNode (scope : Scope) (kind : Kind) (tree : Tree) (name : String) :
    (scope.typeNode kind tree name).1.qualifiedName =
      some (qualify (scope.currentType.getD scope.source.names.package) name) := by
  unfold typeNode
  cases scope.currentType <;> rfl

theorem Surrounds.attributed_typeNode {scope : Scope} {above : List Node}
    (surrounds : scope.Surrounds above) (atTop : scope.source.names.package = package)
    (construct : Construct) (tree : Tree) {name : String}
    (named : source.NamesType root name) (children : List Node) :
    Attributed source root package
      ⟨above, { (scope.typeNode (typeKind construct) tree name).1 with children }⟩ where
  namedType _ := by
    have qualified := scope.qualifiedName_typeNode (typeKind construct) tree name
    rw [atTop, surrounds.type] at qualified
    exact ⟨surrounds.type, name, named, rfl, qualified⟩
  anonymousType isAnonymous := by
    have named := isNamedType_typeKind construct
    rw [show typeKind construct = .anonymousClassDeclaration from isAnonymous] at named
    cases named
  method isMethod := by
    have named := isNamedType_typeKind construct
    rw [show typeKind construct = .methodDeclaration from isMethod] at named
    cases named
  call isCall := by
    have named := isNamedType_typeKind construct
    change (typeKind construct).isCall = true at isCall
    cases kind : typeKind construct <;> rw [kind] at isCall named <;> contradiction

theorem Surrounds.attributed_anonymousNode {scope : Scope} {above : List Node}
    (surrounds : scope.Surrounds above) {outer : String}
    (inside : scope.currentType = some outer) (created body : Tree) (number : Nat)
    (children : List Node) :
    Attributed source root package
      ⟨above, { (scope.anonymousNode created outer number body).1 with children }⟩ where
  namedType := nofun
  anonymousType _ := ⟨outer, number, surrounds.type.symm.trans inside, rfl, rfl⟩
  method := nofun
  call := nofun

theorem surrounds_typeNode (scope : Scope) (above : List Node) (construct : Construct)
    (tree : Tree) (name : String) (children : List Node) :
    (scope.typeNode (typeKind construct) tree name).2.Surrounds
      (above ++ [{ (scope.typeNode (typeKind construct) tree name).1 with children }]) :=
  .inType (by cases construct <;> rfl) rfl scope above

theorem surrounds_anonymousNode (scope : Scope) (above : List Node) (created body : Tree)
    (outer : String) (number : Nat) (children : List Node) :
    (scope.anonymousNode created outer number body).2.Surrounds
      (above ++ [{ (scope.anonymousNode created outer number body).1 with children }]) :=
  .inType rfl rfl scope above

theorem Surrounds.attributed_methodNode {scope : Scope} {above : List Node}
    (surrounds : scope.Surrounds above) {owner : String}
    (inside : scope.currentType = some owner) (tree : Tree) (name : String)
    (children : List Node) :
    Attributed source root package
      ⟨above, { scope.methodNode tree owner name with children }⟩ where
  namedType := nofun
  anonymousType := nofun
  method _ := ⟨owner, name, surrounds.type.symm.trans inside, rfl, rfl, rfl⟩
  call := nofun

theorem Surrounds.attributed_callNode {scope : Scope} {above : List Node}
    (surrounds : scope.Surrounds above) {kind : Kind} (isCall : kind.isCall = true) (tree : Tree)
    (name method : String) (owner : Option String) (children : List Node) :
    Attributed source root package
      ⟨above, { scope.callNode kind tree name method owner with children }⟩ where
  namedType isNamed := by
    change kind.isNamedType = true at isNamed
    cases kind <;> contradiction
  anonymousType isAnonymous := by
    change kind = _ at isAnonymous
    subst kind
    cases isCall
  method isMethod := by
    change kind = _ at isMethod
    subst kind
    cases isCall
  call _ := ⟨surrounds.type, surrounds.method⟩

/-! ## Outlines of several trees -/

/-- An outlining attributes its nodes in every scope that knows the nodes above. -/
def Placed (source : Source) (root : Tree) (package : String)
    (outlined : Scope → Outlining (List Node)) : Prop :=
  ∀ (scope : Scope) (above : List Node), scope.source = source → scope.Surrounds above →
    (outlined scope).Yields (AllAttributed source root package above)

theorem placed_outlineAll {trees : List Tree}
    (each : ∀ tree ∈ trees, Placed source root package (·.outline tree)) :
    Placed source root package (·.outlineAll trees) := by
  intro scope above same surrounds
  induction trees with
  | nil => exact .pure .nil
  | cons tree trees induction =>
      obtain ⟨first, rest⟩ := List.forall_mem_cons.mp each
      change (scope.outlineAll (tree :: trees)).Yields _
      rw [outlineAll]
      exact (first scope above same surrounds).bind fun _ here =>
        (induction rest).bind fun _ later => .pure (here.append later)

theorem placed_outlineBody {trees : List Tree}
    (each : ∀ tree ∈ trees, Placed source root package (·.outline tree)) :
    Placed source root package (·.outlineBody trees) := by
  intro scope above same surrounds
  induction trees with
  | nil => exact .pure .nil
  | cons tree trees induction =>
      obtain ⟨first, rest⟩ := List.forall_mem_cons.mp each
      change (scope.outlineBody (tree :: trees)).Yields _
      rw [outlineBody]
      split
      next => exact first scope above same surrounds
      next => exact induction rest

theorem placed_outlineMembers {trees : List Tree}
    (each : ∀ tree ∈ trees, Placed source root package (·.outlineAll tree.children)) :
    Placed source root package (·.outlineMembers trees) := by
  intro scope above same surrounds
  induction trees with
  | nil => exact .pure .nil
  | cons tree trees induction =>
      obtain ⟨first, rest⟩ := List.forall_mem_cons.mp each
      rcases tree with ⟨construct, span, role, children⟩
      change (scope.outlineMembers (⟨construct, span, role, children⟩ :: trees)).Yields _
      rw [outlineMembers]
      split
      next => exact first scope above same surrounds
      next => exact induction rest

/-- The body of an anonymous class is the only part that has another scope. -/
theorem placed_outlineCreated (created : Tree) {trees : List Tree}
    (each : ∀ tree ∈ trees, Placed source root package (·.outline tree))
    (inside : ∀ tree ∈ trees, Placed source root package (·.outlineAll tree.children)) :
    Placed source root package (·.outlineCreated created trees) := by
  intro scope above same surrounds
  induction trees with
  | nil => exact .pure .nil
  | cons tree trees induction =>
      obtain ⟨first, rest⟩ := List.forall_mem_cons.mp each
      obtain ⟨firstInside, restInside⟩ := List.forall_mem_cons.mp inside
      rcases tree with ⟨construct, span, role, children⟩
      have follows : ∀ nodes, AllAttributed source root package above nodes →
          (scope.outlineCreated created trees >>= fun later => pure (nodes ++ later)).Yields
            (AllAttributed source root package above) :=
        fun _ here => (induction rest restInside).bind fun _ later => .pure (here.append later)
      change (scope.outlineCreated created (⟨construct, span, role, children⟩ :: trees)).Yields _
      unfold outlineCreated
      split
      next outer current =>
          refine .bind_any fun progress => .bind_any fun _ => ?_
          let number := progress.anonymous + 1
          let body : Tree := ⟨.classBody, span, role, children⟩
          let inner := (scope.anonymousNode created outer number body).2
          have node : Outlining.Yields _ (AllAttributed source root package above) :=
            yields_node (surrounds.attributed_anonymousNode current created body number)
              fun within => (firstInside inner _ same
                (surrounds_anonymousNode scope above created body outer number within)).afresh
          exact node.bind follows
      next => exact (firstInside scope above same surrounds).bind follows
      next => exact (first scope above same surrounds).bind follows

/-! ## Outlines of one tree -/

theorem outline_of_declaresType (scope : Scope) {tree : Tree}
    (declares : Source.declaresType tree.construct = true) :
    scope.outline tree =
      match scope.source.childText? tree .name with
      | none => scope.outlineAll tree.children
      | some name => do
          let nodes ← afresh ((scope.typeNode (typeKind tree.construct) tree name).2.outlineMembers
            tree.children)
          return [{ (scope.typeNode (typeKind tree.construct) tree name).1 with
            children := nodes }] := by
  rcases tree with ⟨construct, span, role, children⟩
  cases construct <;> first | rfl | cases declares

theorem placed_outline_type (atTop : source.names.package = package) {tree : Tree}
    (known : tree ∈ root.subtrees) (declares : Source.declaresType tree.construct = true)
    (children : Placed source root package (·.outlineAll tree.children))
    (inside : ∀ child ∈ tree.children, Placed source root package (·.outlineAll child.children)) :
    Placed source root package (·.outline tree) := by
  intro scope above same surrounds
  change (scope.outline tree).Yields _
  rw [outline_of_declaresType scope declares]
  cases found : scope.source.childText? tree .name with
  | none => exact children scope above same surrounds
  | some name =>
      rw [same] at found
      have named : source.NamesType root name := ⟨tree, known, declares, found⟩
      let inner := (scope.typeNode (typeKind tree.construct) tree name).2
      refine yields_node
        (surrounds.attributed_typeNode (same ▸ atTop) tree.construct tree named) fun within => ?_
      exact (placed_outlineMembers inside inner _ same
        (surrounds_typeNode scope above tree.construct tree name within)).afresh

theorem outline_of_declaresMethod (scope : Scope) {tree : Tree}
    (declares : tree.construct = .methodDeclaration ∨ tree.construct = .constructorDeclaration ∨
      tree.construct = .compactConstructor) :
    scope.outline tree =
      match scope.currentType, scope.methodName? tree with
      | some owner, some name => do
          let nodes ← withLocals (OrderedMap.ofList (scope.source.parameters tree))
            (outlineBody (scope.inMethod (member name owner)) tree.children)
          return [{ scope.methodNode tree owner name with children := nodes }]
      | _, _ => scope.outlineAll tree.children := by
  rcases tree with ⟨construct, span, role, children⟩
  rcases declares with here | here | here <;> (cases here; rfl)

theorem placed_outline_method {tree : Tree}
    (declares : tree.construct = .methodDeclaration ∨ tree.construct = .constructorDeclaration ∨
      tree.construct = .compactConstructor)
    (each : ∀ child ∈ tree.children, Placed source root package (·.outline child)) :
    Placed source root package (·.outline tree) := by
  intro scope above same surrounds
  change (scope.outline tree).Yields _
  rw [outline_of_declaresMethod scope declares]
  split
  next owner name current named =>
      refine yields_node (surrounds.attributed_methodNode current tree name) fun within => ?_
      let node : Node := { scope.methodNode tree owner name with children := within }
      have inner : (scope.inMethod (member name owner)).Surrounds (above ++ [node]) :=
        surrounds.inMethod rfl rfl
      exact (placed_outlineBody each (scope.inMethod (member name owner)) _ same inner).withLocals _
  next => exact placed_outlineAll each scope above same surrounds

theorem methodCall_eq (scope : Scope) (locals : OrderedMap String) (tree : Tree)
    (name : String) : ∃ kind owner, kind.isCall = true ∧
      scope.methodCall locals tree name = scope.callNode kind tree name name owner := by
  unfold methodCall
  split
  next kind owner chosen =>
    refine ⟨kind, owner, ?_, rfl⟩
    split at chosen
    next => cases chosen; rfl
    next => split at chosen <;> (cases chosen; rfl)

theorem constructorCall_eq (scope : Scope) (tree : Tree) :
    ∃ kind owner, kind.isCall = true ∧ scope.constructorCall tree =
      scope.callNode kind tree constructorName constructorName owner := by
  unfold constructorCall
  split
  next kind owner chosen =>
    refine ⟨kind, owner, ?_, rfl⟩
    split at chosen <;> (cases chosen; rfl)

/-- A call has its parts in the scope that it stands in itself. -/
theorem yields_call {scope : Scope} {above : List Node} (same : scope.source = source)
    (surrounds : scope.Surrounds above) {kind : Kind} (isCall : kind.isCall = true) (tree : Tree)
    (name method : String) (owner : Option String) {action : Scope → Outlining (List Node)}
    (placed : Placed source root package action) :
    Outlining.Yields
      (action scope >>= fun nodes =>
        pure [{ scope.callNode kind tree name method owner with children := nodes }])
      (AllAttributed source root package above) :=
  yields_node (surrounds.attributed_callNode isCall tree name method owner) fun _ =>
    placed scope _ same (surrounds.below (Kind.opensScope_of_isCall isCall))

theorem placed_methodCall (tree : Tree)
    (children : Placed source root package (·.outlineAll tree.children)) :
    Placed source root package fun scope =>
      match scope.source.childText? tree .name with
      | none => scope.outlineAll tree.children
      | some name => do
          let node := scope.methodCall (← get).locals tree name
          return [{ node with children := ← scope.outlineAll tree.children }] := by
  intro scope above same surrounds
  beta_reduce
  cases named : scope.source.childText? tree .name with
  | none => exact children scope above same surrounds
  | some name =>
      refine .bind_any fun progress => ?_
      obtain ⟨kind, owner, isCall, call⟩ := scope.methodCall_eq progress.locals tree name
      rw [call]
      exact yields_call same surrounds isCall tree name name owner children

theorem placed_constructorCall (tree : Tree)
    (children : Placed source root package (·.outlineAll tree.children)) :
    Placed source root package fun scope => do
      return [{ scope.constructorCall tree with
        children := ← scope.outlineAll tree.children }] := by
  intro scope above same surrounds
  obtain ⟨kind, owner, isCall, call⟩ := scope.constructorCall_eq tree
  beta_reduce
  rw [call]
  exact yields_call same surrounds isCall tree constructorName constructorName owner children

theorem plain_of_plainNode? {scope : Scope} {tree : Tree} {node : Node}
    (found : scope.plainNode? tree = some node) :
    node.kind.opensScope = false ∧ node.kind.isCall = false := by
  unfold plainNode? at found
  split at found <;> cases found <;> exact ⟨rfl, rfl⟩

theorem plain_of_leafNode? {scope : Scope} {tree : Tree} {node : Node}
    (found : scope.leafNode? tree = some node) :
    node.kind.opensScope = false ∧ node.kind.isCall = false ∧ node.children = [] := by
  unfold leafNode? at found
  dsimp only at found
  split at found
  case h_1 | h_2 => cases found; exact ⟨rfl, rfl, rfl⟩
  case h_3 => split at found <;> cases found; exact ⟨rfl, rfl, rfl⟩
  case h_4 => cases found

theorem placed_leaf (tree : Tree) :
    Placed source root package fun scope => pure (scope.leafNode? tree).toList := by
  intro scope above _ _
  refine .pure ?_
  cases found : scope.leafNode? tree with
  | none => exact .nil
  | some node =>
      obtain ⟨closed, noCall, noChildren⟩ := plain_of_leafNode? found
      refine .single (.of_plain closed noCall) ?_
      rw [noChildren]
      exact .nil

/-- A construct that is kept for its place, or is left out, is no scope of its own. -/
theorem placed_plain (tree : Tree)
    (children : Placed source root package (·.outlineAll tree.children)) :
    Placed source root package fun scope => do
      modify fun progress =>
        { progress with locals := insertAll progress.locals (scope.declaredLocals tree) }
      let nodes ← scope.outlineAll tree.children
      match scope.plainNode? tree with
      | some node => return [{ node with children := nodes }]
      | none => return nodes := by
  intro scope above same surrounds
  refine .bind_any fun _ => ?_
  cases found : scope.plainNode? tree with
  | none => exact (children scope above same surrounds).bind fun _ here => .pure here
  | some node =>
      obtain ⟨closed, noCall⟩ := plain_of_plainNode? found
      exact yields_node (fun _ => .of_plain closed noCall) fun _ =>
        children scope _ same (surrounds.below closed)

theorem placed_outline (atTop : source.names.package = package) (tree : Tree)
    (known : tree.subtrees ⊆ root.subtrees) :
    Placed source root package (·.outline tree) ∧
      Placed source root package (·.outlineAll tree.children) := by
  -- a type or an anonymous class outlines what stands two levels below, in the body
  induction tree using Tree.induction with
  | step tree induction =>
      have below : ∀ child ∈ tree.children, Placed source root package (·.outline child) ∧
          Placed source root package (·.outlineAll child.children) := fun child member =>
        induction child member (List.Subset.trans (Tree.subtrees_subset member) known)
      have each := fun child member => (below child member).1
      have inside := fun child member => (below child member).2
      have children := placed_outlineAll each
      refine ⟨?_, children⟩
      have here := known tree.self_mem_subtrees
      rcases tree with ⟨construct, span, role, parts⟩
      cases construct
      case packageDeclaration | importDeclaration | comment => exact placed_leaf _
      case classDeclaration | interfaceDeclaration | recordDeclaration | enumDeclaration
          | annotationTypeDeclaration => exact placed_outline_type atTop here rfl children inside
      case methodDeclaration => exact placed_outline_method (.inl rfl) each
      case constructorDeclaration => exact placed_outline_method (.inr (.inl rfl)) each
      case compactConstructor => exact placed_outline_method (.inr (.inr rfl)) each
      case methodInvocation => exact placed_methodCall _ children
      case constructorInvocation => exact placed_constructorCall _ children
      case instanceCreation =>
        intro scope above same surrounds
        exact yields_call same surrounds rfl _ _ _ _ (placed_outlineCreated _ each inside)
      all_goals exact placed_plain _ children

end Scope

end

/-! ## The package of a source -/

namespace Source

/-- An import changes nothing but what is imported. -/
theorem exists_addImport_eq (names : Names) (chars : List Char) :
    ∃ imports staticImports, names.addImport chars = { names with imports, staticImports } := by
  unfold Names.addImport
  split
  split
  next => exact ⟨_, _, rfl⟩
  next =>
    split
    next => exact ⟨_, _, rfl⟩
    next =>
      dsimp only
      split <;> exact ⟨_, _, rfl⟩

/-- A declaration changes nothing but what is declared. -/
theorem exists_declare_eq (around : Surroundings) (construct : Construct) (name : Option String)
    (names : Names) :
    ∃ declared types methods,
      around.declare construct name names = { names with declared, types, methods } := by
  unfold Surroundings.declare
  split
  next => exact ⟨_, _, _, rfl⟩
  next =>
    split
    next => exact ⟨_, _, _, rfl⟩
    next => split <;> exact ⟨_, _, _, rfl⟩

/-- What each declaration keeps is kept by all those in trees. -/
theorem addAllDeclared_induction {source : Source} {motive : Names → Prop} {trees : List Tree}
    (each : ∀ tree ∈ trees, ∀ around names, motive names →
      motive (source.addDeclared around tree names))
    (around : Surroundings) {names : Names} (before : motive names) :
    motive (source.addAllDeclared around trees names) := by
  induction trees generalizing names with
  | nil => exact before
  | cons tree trees induction =>
      obtain ⟨first, rest⟩ := List.forall_mem_cons.mp each
      rw [addAllDeclared]
      exact induction rest (first around names before)

theorem addDeclared_induction {motive : Names → Prop}
    (declare : ∀ (around : Surroundings) construct name names, motive names →
      motive (around.declare construct name names))
    (source : Source) (tree : Tree) (around : Surroundings) (names : Names)
    (before : motive names) : motive (source.addDeclared around tree names) := by
  induction tree using Tree.induction generalizing around names with
  | step tree induction =>
      rcases tree with ⟨construct, span, role, children⟩
      rw [addDeclared]
      exact addAllDeclared_induction induction _ (declare around construct _ names before)

theorem exists_addAllDeclared_eq (source : Source) (around : Surroundings) (trees : List Tree)
    (names : Names) : ∃ declared types methods,
      source.addAllDeclared around trees names = { names with declared, types, methods } := by
  refine addAllDeclared_induction (motive := fun after =>
    ∃ declared types methods, after = { names with declared, types, methods }) ?_ around
    ⟨_, _, _, rfl⟩
  refine fun tree _ => addDeclared_induction ?_ source tree
  rintro around construct name after ⟨_, _, _, rfl⟩
  obtain ⟨declared, types, methods, same⟩ := exists_declare_eq around construct name _
  exact ⟨declared, types, methods, same⟩

theorem package_addAllDeclared (source : Source) (around : Surroundings) (trees : List Tree)
    (names : Names) : (source.addAllDeclared around trees names).package = names.package := by
  obtain ⟨_, _, _, same⟩ := source.exists_addAllDeclared_eq around trees names
  rw [same]

theorem package_foldl_addHeader (source : Source) (trees : List Tree) (names : Names) :
    (trees.foldl source.addHeader names).package =
      ((trees.filter (·.construct = .packageDeclaration)).getLast?.map
        source.packageName).getD names.package := by
  induction trees generalizing names with
  | nil => rfl
  | cons tree trees induction =>
      rw [List.foldl_cons, induction]
      by_cases declares : tree.construct = .packageDeclaration
      · rw [List.filter_cons_of_pos (by simpa using declares), List.getLast?_cons]
        unfold addHeader
        rw [declares]
        cases (trees.filter (·.construct = .packageDeclaration)).getLast? <;> rfl
      · rw [List.filter_cons_of_neg (by simpa using declares)]
        have kept : (source.addHeader names tree).package = names.package := by
          unfold addHeader
          split
          next here => exact absurd here declares
          next =>
            obtain ⟨_, _, same⟩ := exists_addImport_eq names (tree.chars source.chars)
            rw [same]
          next => rfl
        rw [kept]

theorem package_ofTree (chars : Array Char) (tree : Tree) :
    (ofTree chars tree).names.package = (ofTree chars tree).declaredPackage tree :=
  (package_addAllDeclared ..).trans (package_foldl_addHeader ⟨chars, {}⟩ tree.children {})

end Source

theorem allAttributed_outline (file : String) (chars : Array Char) (tree : Tree) :
    let source := Source.ofTree chars tree
    AllAttributed source tree (source.declaredPackage tree) [] [outline file source tree] := by
  intro source
  let unit := outline file source tree
  let scope : Scope := { source, file }
  have atTop : scope.Surrounds [] := ⟨rfl, rfl⟩
  have inUnit : scope.Surrounds ([] ++ [unit]) := atTop.below rfl
  have below := (Scope.placed_outline (Source.package_ofTree chars tree) tree
    (List.Subset.refl tree.subtrees)).2 scope _ rfl inUnit {}
  exact .single (.of_plain rfl rfl) below

/-- In the outline of any source, every declaration and every call states its own place. -/
theorem outline_attributed (file : String) (chars : Array Char) (tree : Tree) :
    let source := Source.ofTree chars tree
    ∀ occurrence ∈ (outline file source tree).occurrences,
      Attributed source tree (source.declaredPackage tree) occurrence :=
  allAttributed_outline file chars tree _ List.mem_cons_self

end Java

end CodeGraph
