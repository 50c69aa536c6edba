import CodeGraph.Proofs.Java.Reaching
import CodeGraph.Proofs.Java.Unqualified

/-!
# Names collected and names given

The names of a source are collected in one way and given to the nodes of its outline in another.
Outside of anonymous classes both put the names of the types around together in the same way.
Inside of them the outline gives names with a number, which no collected name has.
-/

namespace CodeGraph.Java

/-! ## Names around a place -/

theorem Scope.construct_of_opening_method {scope inside : Scope} {tree : Tree} {node : Node}
    {locals : OrderedMap String} (opens : scope.opening tree = .method node inside locals) :
    tree.construct ≠ .instanceCreation ∧ tree.construct ≠ .classBody := by
  unfold Scope.opening at opens
  constructor <;> intro same <;> rw [same] at opens <;> cases opens

section

variable {start : Scope} {root tree : Tree} {way : List Step}

/-- Where a creation is around, the way has gone into it, or it stands outside of types. -/
theorem Leads.creation (leads : Leads start root way tree) (plain : root.BodiesPlain)
    (below : root.Below (treesAround way) tree) (outside : Outside way)
    (created : ((treesAround way).headD root).construct = .instanceCreation) :
    enclosing start way = [] ∨ ∃ creation, way.head?.bind Step.creation? = some creation := by
  cases leads with
  | top => exact .inl rfl
  | @part way parent tree before after node _ _ _ split =>
    refine .inr ⟨parent, ?_⟩
    exact if_pos created
  | @body way method tree node inside locals _ opens _ =>
    exact absurd created (Scope.construct_of_opening_method opens).1
  | @member way type body tree before after node inside leads _ found _ =>
    have isBody : body.role = some .body := by simpa using List.find?_some found
    have inside : body ∈ root.subtrees := below.mem_subtrees.2 body (List.mem_cons_self ..)
    exact absurd created (plain body inside isBody).declares_nothing.2.1
  | anonymous => exact absurd (outside _ (List.mem_cons_self ..)) (by simp [Step.isAnonymous])

theorem Source.around_undeclared {source : Source} {package : String} {around : List Tree}
    (undeclared : source.typeDeclared? tree = none) :
    source.nameAround package (tree :: around) = source.nameAround package around ∧
      source.typeAround? package root (tree :: around) =
        if tree.construct = .classBody ∧ (around.headD root).construct = .instanceCreation then none
        else source.typeAround? package root around := by
  simp only [nameAround, typeAround?, undeclared, and_self]

/-- Outside of anonymous classes, the type and the name around a place are those which the scope
there has. -/
theorem Leads.around (leads : Leads start root way tree) (bare : start.types = [])
    (plain : root.BodiesPlain) (outside : Outside way) :
    let package := start.source.names.package
    let type := (enclosing start way).head?.map (·.qualified)
    root.Below (treesAround way) tree ∧
      start.source.nameAround package (treesAround way) = type.getD package ∧
      start.source.typeAround? package root (treesAround way) = type := by
  induction leads with
  | top split => exact ⟨.child (by rw [split]; simp), rfl, rfl⟩
  | @part way parent tree before after node leads apart opens split induction =>
    have outside : Outside way := fun step member => outside step (.tail _ member)
    obtain ⟨below, name, type⟩ := induction outside
    have undeclared := leads.undeclared bare (by simp [opens])
    obtain ⟨sameName, sameType⟩ := Source.around_undeclared undeclared
    refine ⟨below.deeper (by rw [split]; simp), sameName.trans name, sameType.trans ?_⟩
    split
    case isFalse => exact type
    case isTrue cut =>
      rcases leads.creation plain below outside cut.2 with empty | ⟨creation, found⟩
      · exact (congrArg (·.head?.map Enclosing.qualified) empty).symm
      · rw [found, Scope.anonymous?, if_pos cut.1, Option.map_eq_none_iff,
          (leads.holds bare).currentType] at apart
        exact apart.symm
  | @body way method tree node inside locals leads opens isChild induction =>
    obtain ⟨below, name, type⟩ := induction fun step member => outside step (.tail _ member)
    have undeclared := leads.undeclared bare (by simp [opens])
    obtain ⟨sameName, sameType⟩ := Source.around_undeclared undeclared
    refine ⟨below.deeper isChild, sameName.trans name, sameType.trans ?_⟩
    rw [if_neg fun cut => (Scope.construct_of_opening_method opens).2 cut.1]
    exact type
  | @member way type body tree before after node inside leads opens found split induction =>
    obtain ⟨below, name, -⟩ := induction fun step member => outside step (.tail _ member)
    have isBody : body.role = some .body := by simpa using List.find?_some found
    have isPart := Tree.mem_subtrees_of_mem_children below.mem_subtrees.1
      (List.mem_of_find?_eq_some found)
    have undeclared : start.source.typeDeclared? body = none := by
      rw [Source.typeDeclared?, (plain body isPart isBody).declares_nothing.1]
      rfl
    obtain ⟨belowType, named, owned⟩ :=
      leads.below_body bare opens found (Option.isNone_iff_eq_none.mpr undeclared) below
    rw [name] at named owned
    exact ⟨belowType.deeper (by rw [split]; simp), named, owned⟩
  | anonymous => exact absurd (outside _ (List.mem_cons_self ..)) (by simp [Step.isAnonymous])

end

/-! ## Nodes of types and methods -/

/-- A part in whose scope its own parts are is neither a type nor a method. -/
theorem Scope.opensScope_of_opening_plain {scope : Scope} {tree : Tree}
    {node : OrderedMap String → Option Node} (opens : scope.opening tree = .plain node)
    {locals : OrderedMap String} {given : Node} (found : node locals = some given) :
    given.kind.opensScope = false := by
  unfold Scope.opening at opens
  split at opens
  case h_1 | h_2 | h_3 => cases opens
  case h_4 | h_5 | h_6 | h_7 | h_8 | h_9 | h_10 | h_11 =>
    split at opens <;> cases opens
    cases found
  case h_12 =>
    cases opens
    obtain ⟨name, -, rfl⟩ := Option.map_eq_some_iff.mp found
    obtain ⟨kind, owner, isCall, same⟩ := scope.methodCall_eq locals tree name
    rw [same]
    exact Kind.opensScope_of_isCall isCall
  case h_13 =>
    cases opens
    cases found
    obtain ⟨kind, owner, isCall, same⟩ := scope.constructorCall_eq tree
    rw [same]
    exact Kind.opensScope_of_isCall isCall
  case h_14 =>
    cases opens
    cases found
    rfl
  case h_15 =>
    cases opens
    exact (plain_of_plainNode? found).1

section

variable {start : Scope} {place : Place} {types : List Enclosing} {node : Node}

/-- A named type has the name that its declaration gives it, behind the name of the type around. -/
theorem Scope.Holds.node?_of_namedType
    (holds : (Standing.along start place.way).scope.Holds start.source types)
    (found : place.node? start = some node) (named : node.kind.isNamedType = true) :
    ∃ name, start.source.typeDeclared? place.tree = some name ∧
      node.qualifiedName = some
        (qualify ((types.head?.map (·.qualified)).getD start.source.names.package) name) := by
  have isType : node.kind.opensScope = true := by simp [Kind.opensScope, Kind.isType, named]
  unfold Place.node? at found
  dsimp only at found
  split at found
  next =>
    cases found
    cases named
  next =>
    rcases (Standing.along start place.way).scope.opening_cases place.tree with
      ⟨name, declared, opens⟩ | ⟨-, ⟨_, _, -, -, opens⟩ | ⟨leaf, opens⟩ | ⟨plain, opens⟩⟩
    · rw [opens] at found
      cases found
      refine ⟨name, holds.sameSource ▸ declared, ?_⟩
      rw [Scope.qualifiedName_typeNode, holds.currentType, holds.sameSource]
    · rw [opens] at found
      cases found
      cases named
    · rw [opens] at found
      cases found
      have closed := (plain_of_leafNode? (Scope.eq_leafNode?_of_opening opens).symm).1
      rw [closed] at isType
      cases isType
    · rw [opens] at found
      rw [Scope.opensScope_of_opening_plain opens found] at isType
      cases isType

/-- The declaration of a method has a node in a type only. -/
theorem Scope.Holds.node?_of_method
    (holds : (Standing.along start place.way).scope.Holds start.source types)
    (declares : place.tree.construct = .methodDeclaration) :
    place.node? start = some node ↔
      ∃ owner name, types.head?.map (·.qualified) = some owner ∧
        start.source.childText? place.tree .name = some name ∧
        node = (Standing.along start place.way).scope.methodNode place.tree owner name := by
  have whole := (Standing.along start place.way).scope.anonymous?_of_other
    (place.way.head?.bind Step.creation?)
    (by rw [declares]; decide : place.tree.construct ≠ .classBody)
  unfold Place.node?
  dsimp only
  rw [whole]
  dsimp only
  rw [Scope.opening, declares]
  dsimp only
  rw [holds.currentType, Scope.methodName?, if_pos declares, holds.sameSource]
  cases types.head?.map (·.qualified) with
  | none => simp [Opening.node?]
  | some owner =>
    cases start.source.childText? place.tree .name with
    | none => simp [Opening.node?]
    | some name => simp [Opening.node?, eq_comm]

end

/-! ## Names with a number -/

theorem dollar_mem_qualify {outer name : String} :
    '$' ∈ (qualify outer name).toList ↔ '$' ∈ outer.toList ∨ '$' ∈ name.toList := by
  unfold qualify
  split
  next empty =>
    rw [String.isEmpty_iff.mp empty]
    simp
  next => simp

/-- Inside of anonymous classes, the name of the type around has a dollar sign. -/
theorem dollar_of_inside (start : Scope) {way : List Step} (inside : ¬ Outside way) :
    ∃ outer, (enclosing start way).head?.map (·.qualified) = some outer ∧ '$' ∈ outer.toList := by
  induction way with
  | nil => exact absurd (fun _ none => nomatch none) inside
  | cons step way induction =>
    rw [Outside, List.forall_mem_cons, not_and] at inside
    cases step with
    | top | part | body => exact induction (inside rfl)
    | member type body before =>
      obtain ⟨outer, head, dollar⟩ := induction (inside rfl)
      refine ⟨_, rfl, dollar_mem_qualify.mpr (.inl ?_)⟩
      rw [head]
      exact dollar
    | anonymous created body before => exact ⟨_, rfl, by simp⟩

/-- Neither the package nor any declared type has a dollar sign in its name. -/
structure Source.WithoutDollars (source : Source) (root : Tree) : Prop where
  package : '$' ∉ source.names.package.toList
  types : ∀ name, source.NamesType root name → '$' ∉ name.toList

namespace Source.WithoutDollars

variable {source : Source} {root : Tree} {around : List Tree}

theorem of_typeDeclared? (plain : source.WithoutDollars root) {tree : Tree} {name : String}
    (inside : tree ∈ root.subtrees) (declared : source.typeDeclared? tree = some name) :
    '$' ∉ name.toList :=
  plain.types name ⟨tree, inside, Option.ite_none_right_eq_some.mp declared⟩

theorem nameAround (plain : source.WithoutDollars root) {around : List Tree}
    (inside : ∀ outer ∈ around, outer ∈ root.subtrees) :
    '$' ∉ (source.nameAround source.names.package around).toList := by
  induction around with
  | nil => exact plain.package
  | cons tree around induction =>
    obtain ⟨here, outside⟩ := List.forall_mem_cons.mp inside
    rw [Source.nameAround]
    split
    next name declared =>
      rw [dollar_mem_qualify]
      exact not_or.mpr ⟨induction outside, plain.of_typeDeclared? here declared⟩
    next => exact induction outside

theorem hasType (plain : source.WithoutDollars root) {type : String}
    (declared : source.HasType source.names.package root type) : '$' ∉ type.toList := by
  obtain ⟨around, tree, name, below, declared, rfl⟩ := declared
  obtain ⟨here, outside⟩ := below.mem_subtrees
  rw [dollar_mem_qualify]
  exact not_or.mpr ⟨plain.nameAround outside, plain.of_typeDeclared? here declared⟩

theorem typeAround? (plain : source.WithoutDollars root) {around : List Tree} {type : String}
    (inside : ∀ outer ∈ around, outer ∈ root.subtrees)
    (found : source.typeAround? source.names.package root around = some type) :
    '$' ∉ type.toList := by
  induction around with
  | nil => cases found
  | cons tree around induction =>
    obtain ⟨here, outside⟩ := List.forall_mem_cons.mp inside
    rw [Source.typeAround?] at found
    split at found
    next name declared =>
      cases found
      rw [dollar_mem_qualify]
      exact not_or.mpr ⟨plain.nameAround outside, plain.of_typeDeclared? here declared⟩
    next =>
      split at found
      next => cases found
      next => exact induction outside found

theorem hasMethod (plain : source.WithoutDollars root) {type method : String}
    (declared : source.HasMethod source.names.package root type method) : '$' ∉ type.toList := by
  obtain ⟨around, tree, below, -, -, found⟩ := declared
  exact plain.typeAround? below.mem_subtrees.2 found

end Source.WithoutDollars

/-! ## Names collected and given -/

/-- The outline has a method of the type with the name. -/
def GivesMethod (start : Scope) (root : Tree) (type method : String) : Prop :=
  ∃ place ∈ places start root, place.tree.construct = .methodDeclaration ∧
    ∃ node, place.node? start = some node ∧ node.declaringType = some type ∧
      node.name = some method

/-- Each method that is given to the type stands outside of anonymous classes, and each method that
is collected for it is reached. -/
structure WrittenOutside (start : Scope) (root : Tree) (type : String) : Prop where
  given : ∀ place ∈ places start root, place.tree.construct = .methodDeclaration →
    ∀ node, place.node? start = some node → node.declaringType = some type → Outside place.way
  collected : ∀ around tree, root.Below around tree → tree.construct = .methodDeclaration →
    start.source.typeAround? start.source.names.package root around = some type →
      root.Reached around tree

/-- Where nothing is skipped, all methods are written outside. -/
theorem Tree.NothingSkipped.writtenOutside {root : Tree} (nothing : root.NothingSkipped)
    (start : Scope) (type : String) : WrittenOutside start root type where
  given _ member declares _ _ _ := nothing.outside (leads_of_mem_places member) (.inl declares)
  collected _ tree below declares _ := nothing.reached below tree.self_mem_subtrees declares

section

variable {start : Scope} {root : Tree} {place : Place} {node : Node}

/-- A named type is collected just if it stands outside of anonymous classes, as long as no name
looks like one with a number. -/
theorem namedType_collected (plain : root.BodiesPlain) (bare : start.types = [])
    (collects : ∀ type, type ∈ start.source.names.types ↔
      start.source.HasType start.source.names.package root type)
    (member : place ∈ places start root) (found : place.node? start = some node)
    (named : node.kind.isNamedType = true) :
    ∃ type, node.qualifiedName = some type ∧
      (Outside place.way → type ∈ start.source.names.types) ∧
      (start.source.WithoutDollars root → type ∈ start.source.names.types →
        Outside place.way) := by
  have leads := leads_of_mem_places member
  obtain ⟨name, declared, qualified⟩ := (leads.holds bare).node?_of_namedType found named
  refine ⟨_, qualified, fun outside => ?_, fun noDollars isThere => by_contra fun inside => ?_⟩
  · obtain ⟨below, same, -⟩ := leads.around bare plain outside
    exact (collects _).mpr ⟨_, _, name, below, declared, by rw [same]⟩
  · obtain ⟨outer, head, dollar⟩ := dollar_of_inside start inside
    refine noDollars.hasType ((collects _).mp isThere) (dollar_mem_qualify.mpr (.inl ?_))
    rw [head]
    exact dollar

/-- A method is collected just if it stands outside of anonymous classes, as long as no name looks
like one with a number. -/
theorem method_collected (plain : root.BodiesPlain) (bare : start.types = [])
    (collects : ∀ type method, start.source.names.declaresMethod type method = true ↔
      start.source.HasMethod start.source.names.package root type method)
    (member : place ∈ places start root) (found : place.node? start = some node)
    (declares : place.tree.construct = .methodDeclaration) :
    ∃ type method, node.declaringType = some type ∧ node.name = some method ∧
      (Outside place.way → start.source.names.declaresMethod type method = true) ∧
      (start.source.WithoutDollars root →
        start.source.names.declaresMethod type method = true → Outside place.way) := by
  have leads := leads_of_mem_places member
  obtain ⟨type, method, head, named, rfl⟩ :=
    ((leads.holds bare).node?_of_method declares).mp found
  refine ⟨type, method, rfl, rfl, fun outside => ?_,
    fun noDollars isThere => by_contra fun inside => ?_⟩
  · obtain ⟨below, -, same⟩ := leads.around bare plain outside
    exact (collects ..).mpr ⟨_, _, below, declares, named, same.trans head⟩
  · obtain ⟨outer, same, dollar⟩ := dollar_of_inside start inside
    cases head.symm.trans same
    exact noDollars.hasMethod ((collects ..).mp isThere) dollar

/-- The methods collected for a type are those that are given to it, if all of them stand outside of
anonymous classes. -/
theorem WrittenOutside.methods (plain : root.BodiesPlain) (bare : start.types = [])
    (collects : ∀ type method, start.source.names.declaresMethod type method = true ↔
      start.source.HasMethod start.source.names.package root type method)
    {type : String} (written : WrittenOutside start root type) (method : String) :
    start.source.names.declaresMethod type method = true ↔
      GivesMethod start root type method := by
  rw [collects]
  constructor
  · rintro ⟨around, tree, below, declares, named, owner⟩
    have reached := written.collected around tree below declares owner
    obtain ⟨place, rfl, member, rfl, outside, -⟩ := reached.method plain declares
    have leads := leads_of_mem_places member
    obtain ⟨-, -, same⟩ := leads.around bare plain outside
    have found := ((leads.holds bare).node?_of_method declares).mpr
      ⟨type, method, same.symm.trans owner, named, rfl⟩
    exact ⟨place, member, declares, _, found, rfl, rfl⟩
  · rintro ⟨place, member, declares, node, found, owner, named⟩
    obtain ⟨_, _, sameOwner, sameName, collected, -⟩ :=
      method_collected plain bare collects member found declares
    cases owner.symm.trans sameOwner
    cases named.symm.trans sameName
    exact (collects ..).mp (collected (written.given place member declares node found owner))

end

/-- The outline of a source has one node for each place that has a node.  A named type and a method
in it are collected under the name that the outline gives to the type, if they stand outside of
anonymous classes, and else they are not, unless a name has a dollar sign.  The methods collected
for a type are those that the outline gives to it, if these stand outside of anonymous classes and
what is collected is reached.  So the two agree on all named types where nothing is skipped. -/
theorem outline_collected (file : String) {chars : List Char} {root : Tree}
    (parsed : Tree.ofChars? chars = some root) :
    let source := Source.ofTree chars.toArray root
    let start : Scope := { source, file }
    (outline file source root).nodes =
        (outline file source root).alone ::
          ((places start root).filterMap (·.node? start)).map Node.alone ∧
      (∀ place ∈ places start root, ∀ node, place.node? start = some node →
        (node.kind.isNamedType = true → ∃ type, node.qualifiedName = some type ∧
          (Outside place.way → type ∈ source.names.types) ∧
          (source.WithoutDollars root → type ∈ source.names.types → Outside place.way)) ∧
        (place.tree.construct = .methodDeclaration → ∃ type method,
          node.declaringType = some type ∧ node.name = some method ∧
          (Outside place.way → source.names.declaresMethod type method = true) ∧
          (source.WithoutDollars root → source.names.declaresMethod type method = true →
            Outside place.way))) ∧
      (∀ type, WrittenOutside start root type → ∀ method,
        source.names.declaresMethod type method = true ↔ GivesMethod start root type method) ∧
      (root.NothingSkipped → ∀ place ∈ places start root, ∀ node,
        place.node? start = some node → node.kind.isNamedType = true →
          ∃ type, node.qualifiedName = some type ∧ type ∈ source.names.types ∧
            ∀ method, source.names.declaresMethod type method = true ↔
              GivesMethod start root type method) := by
  intro source start
  have plain := Tree.bodiesPlain_of_ofChars? parsed
  have types := Source.mem_types_ofTree chars.toArray root
  have methods := Source.declaresMethod_ofTree chars.toArray root
  refine ⟨nodes_outline file source root, fun place member node found => ⟨?_, ?_⟩,
    fun type written => written.methods plain rfl methods, ?_⟩
  · exact namedType_collected plain rfl types member found
  · exact method_collected plain rfl methods member found
  · intro nothing place member node found named
    obtain ⟨type, qualified, collected, -⟩ :=
      namedType_collected plain rfl types member found named
    have leads := leads_of_mem_places member
    obtain ⟨name, declared, -⟩ := (leads.holds rfl).node?_of_namedType found named
    have outside := nothing.outside leads (.inr (Option.ite_none_right_eq_some.mp declared).1)
    exact ⟨type, qualified, collected outside,
      (nothing.writtenOutside start type).methods plain rfl methods⟩

/-- Types in a method, in a lambda expression, and in the body of a constant of an enumeration. -/
theorem outline_collected_inner :
    let text := "class A\x7bvoid f()\x7bclass B\x7bvoid g()\x7b\x7d\x7dRunnable r=()->" ++
      "\x7bclass B\x7bvoid h()\x7b\x7d\x7d\x7d;\x7denum E\x7bX\x7bclass C\x7b\x7dvoid k()" ++
      "\x7b\x7d\x7d;void l()\x7b\x7d\x7d\x7d"
    ∃ root ∈ Tree.ofChars? text.toList,
      let source := Source.ofTree text.toList.toArray root
      let start : Scope := { source, file := "A.java" }
      let types := ((places start root).filterMap (·.node? start)).filterMap fun node =>
        if node.kind.isNamedType then node.qualifiedName else none
      types = ["A", "A.B", "A.B", "A.E", "A.E.C"] ∧
        ∀ type ∈ types, type ∈ source.names.types ∧
          ∀ method, source.names.declaresMethod type method = true ↔
            GivesMethod start root type method := by
  intro text
  have found : ∃ root ∈ Tree.ofChars? text.toList,
      let source := Source.ofTree text.toList.toArray root
      let start : Scope := { source, file := "A.java" }
      root.NothingSkipped ∧
        ((places start root).filterMap (·.node? start)).filterMap (fun node =>
          if node.kind.isNamedType then node.qualifiedName else none) =
          ["A", "A.B", "A.B", "A.E", "A.E.C"] := by
    decide +kernel
  obtain ⟨root, parsed, nothing, names⟩ := found
  refine ⟨root, parsed, names, fun type isGiven => ?_⟩
  obtain ⟨node, isNode, isType⟩ := List.mem_filterMap.mp isGiven
  obtain ⟨place, member, here⟩ := List.mem_filterMap.mp isNode
  obtain ⟨named, qualified⟩ := Option.ite_none_right_eq_some.mp isType
  obtain ⟨-, -, -, agree⟩ := outline_collected "A.java" parsed
  obtain ⟨given, same, collected, methods⟩ := agree nothing place member node here named
  cases qualified.symm.trans same
  exact ⟨collected, methods⟩

/-- A class in an anonymous class, and its method, are not collected under the name that the outline
gives to the class. -/
theorem not_outline_collected_anonymous :
    let text := "class A\x7bObject o=new B()\x7bclass C\x7bvoid m()\x7b\x7d\x7d\x7d;\x7d"
    ∃ root ∈ Tree.ofChars? text.toList,
      let source := Source.ofTree text.toList.toArray root
      let start : Scope := { source, file := "A.java" }
      (∃ place ∈ places start root, place.tree.construct = .classDeclaration ∧
        (place.node? start).bind (·.qualifiedName) = some "A$1.C") ∧
      (∃ place ∈ places start root, place.tree.construct = .methodDeclaration ∧
        (place.node? start).bind (·.declaringType) = some "A$1.C") ∧
      "A$1.C" ∉ source.names.types ∧
      source.names.declaresMethod "A$1.C" "m" = false := by
  decide +kernel

end CodeGraph.Java
