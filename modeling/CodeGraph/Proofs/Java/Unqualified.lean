import CodeGraph.Proofs.Java.Declaring
import CodeGraph.Proofs.Java.Ways

/-!
# Calls without an object

A call that names no object goes to the innermost type around that declares the method, or else
to the type that the method is imported from, or else to the innermost type.  Which types declare
a method is looked up by their full names among all methods of the source.  So a type that is
declared with others of the same name, or in an anonymous class, may be taken for another one.
-/

namespace CodeGraph.Java

/-! ## Methods of the types around -/

/-- The body itself declares a method of this name. -/
def Source.OwnMethod (source : Source) (body : Tree) (method : String) : Prop :=
  ∃ part ∈ body.members, part.construct = .methodDeclaration ∧
    source.childText? part .name = some method

instance (source : Source) (body : Tree) (method : String) :
    Decidable (source.OwnMethod body method) :=
  inferInstanceAs (Decidable (∃ part ∈ body.members, _))

/-- The methods of this name that go under the name of the type are its own. -/
structure Enclosing.Distinct (type : Enclosing) (source : Source) (root : Tree)
    (method : String) : Prop where
  named : source.OwnMethod type.body method → type.named = true
  own : source.HasMethod source.names.package root type.qualified method →
    source.OwnMethod type.body method

section

variable {start : Scope} {root tree : Tree} {way : List Step}

theorem Leads.undeclared (leads : Leads start root way tree) (bare : start.types = [])
    (other : ∀ node inside, (Standing.along start way).scope.opening tree ≠ .type node inside) :
    start.source.typeDeclared? tree = none := by
  have nothing := Scope.typeDeclared?_eq_none other
  rwa [(leads.holds bare).sameSource] at nothing

/-- The body of a type is below the type, and what is in it goes under the type's name. -/
theorem Leads.below_body {type body : Tree} {node : Node} {inside : Scope}
    (leads : Leads start root way type) (bare : start.types = [])
    (opens : (Standing.along start way).scope.opening type = .type node inside)
    (found : type.child? .body = some body)
    (undeclared : (start.source.typeDeclared? body).isNone = true)
    {around : List Tree} (below : root.Below around type) :
    let package := start.source.names.package
    let qualified := qualify (start.source.nameAround package around)
      ((start.source.typeDeclared? type).getD "")
    root.Below (type :: around) body ∧
      start.source.nameAround package (body :: type :: around) = qualified ∧
      start.source.typeAround? package root (body :: type :: around) = some qualified := by
  obtain ⟨name, declared, -⟩ := Scope.of_opening_type opens
  rw [(leads.holds bare).sameSource] at declared
  have isBody : body ∈ type.children := List.mem_of_find?_eq_some found
  rw [declared]
  exact ⟨below.deeper isBody,
    Source.around_body declared (Option.isNone_iff_eq_none.mp undeclared) _ root around⟩

/-- Outside of anonymous classes, a way goes through the types that are declared around. -/
theorem Leads.nameAround (leads : Leads start root way tree) (bare : start.types = [])
    (named : (enclosing start way).all (·.named) = true) :
    ∃ around, root.Below around tree ∧
      start.source.nameAround start.source.names.package around =
        ((enclosing start way).head?.map (·.qualified)).getD start.source.names.package := by
  induction leads with
  | top split => exact ⟨[], .child (by simp [split]), rfl⟩
  | @part way parent tree before after node leads _ opens split induction =>
      obtain ⟨around, below, same⟩ := induction named
      refine ⟨parent :: around, below.deeper (by simp [split]), ?_⟩
      rw [Source.nameAround, leads.undeclared bare (by simp [opens])]
      exact same
  | @body way method tree node inside locals leads opens isChild induction =>
      obtain ⟨around, below, same⟩ := induction named
      refine ⟨method :: around, below.deeper isChild, ?_⟩
      rw [Source.nameAround, leads.undeclared bare (by simp [opens])]
      exact same
  | @member way type body tree before after node inside leads opens found split induction =>
      rw [enclosing, List.all_cons, Bool.and_eq_true, Bool.and_eq_true] at named
      obtain ⟨⟨-, undeclared⟩, outer⟩ := named
      obtain ⟨around, below, same⟩ := induction outer
      obtain ⟨belowType, named, -⟩ := leads.below_body bare opens found undeclared below
      refine ⟨body :: type :: around, belowType.deeper (by simp [split]), ?_⟩
      rw [named, same]
      rfl
  | anonymous => cases named

/-- A type that is named is where its full name has been written. -/
theorem Leads.typeAround? (leads : Leads start root way tree) (bare : start.types = [])
    {type : Enclosing} (member : type ∈ enclosing start way) (named : type.named = true) :
    ∃ around, root.Below around type.body ∧
      start.source.typeAround? start.source.names.package root (type.body :: around) =
        some type.qualified := by
  induction leads with
  | top => exact absurd member List.not_mem_nil
  | part _ _ _ _ induction => exact induction member
  | body _ _ _ induction => exact induction member
  | @member way declaration body tree before after node inside leads opens found split induction =>
      rcases List.mem_cons.mp member with rfl | around
      · obtain ⟨outer, undeclared⟩ := Bool.and_eq_true_iff.mp named
        obtain ⟨around, below, same⟩ := leads.nameAround bare outer
        obtain ⟨belowType, -, owned⟩ := leads.below_body bare opens found undeclared below
        refine ⟨declaration :: around, belowType, ?_⟩
        rw [owned, same]
      · exact induction around
  | anonymous _ _ _ induction =>
      rcases List.mem_cons.mp member with rfl | around
      · cases named
      · exact induction around

/-- The methods of a named type go under its name. -/
theorem Leads.hasMethod (leads : Leads start root way tree) (bare : start.types = [])
    {type : Enclosing} (member : type ∈ enclosing start way) (named : type.named = true)
    {method : String} (own : start.source.OwnMethod type.body method) :
    start.source.HasMethod start.source.names.package root type.qualified method := by
  obtain ⟨around, below, inside⟩ := leads.typeAround? bare member named
  obtain ⟨part, isMember, isMethod, given⟩ := own
  obtain ⟨child, isChild, among⟩ := List.mem_flatMap.mp isMember
  split at among
  next apart =>
    refine ⟨child :: type.body :: around, part, (below.deeper isChild).deeper among, isMethod,
      given, ?_⟩
    have undeclared : start.source.typeDeclared? child = none := by
      rw [Source.typeDeclared?, apart]
      rfl
    simp only [Source.typeAround?, undeclared, apart] at inside ⊢
    exact inside
  next =>
    cases List.mem_singleton.mp among
    exact ⟨type.body :: around, part, below.deeper isChild, isMethod, given, inside⟩

end

/-! ## Where calls without an object go -/

/-- A call goes to the innermost type around that declares the method, or else to the type that
it is imported from, or else to the innermost type. -/
inductive CallOwner (declares : Enclosing → Prop) (imported : Option String) :
    List Enclosing → Option String → Prop where
  | declared {inner outer : List Enclosing} {type : Enclosing} :
      (∀ other ∈ inner, ¬ declares other) → declares type →
      CallOwner declares imported (inner ++ type :: outer) (some type.qualified)
  | imported {types : List Enclosing} {owner : String} :
      (∀ type ∈ types, ¬ declares type) → imported = some owner →
      CallOwner declares imported types (some owner)
  | innermost {types : List Enclosing} :
      (∀ type ∈ types, ¬ declares type) → imported = none →
      CallOwner declares imported types (types.head?.map (·.qualified))

namespace CallOwner

variable {declares others : Enclosing → Prop} {imported owner : Option String}
  {types : List Enclosing}

theorem congr (goes : CallOwner declares imported types owner)
    (same : ∀ type ∈ types, declares type ↔ others type) :
    CallOwner others imported types owner := by
  cases goes with
  | declared earlier here =>
      refine .declared (fun type member => ?_) ((same _ (by simp)).mp here)
      rw [← same type (by simp [member])]
      exact earlier type member
  | imported nowhere found =>
      exact .imported (fun type member => (same type member).not.mp (nowhere type member)) found
  | innermost nowhere found =>
      exact .innermost (fun type member => (same type member).not.mp (nowhere type member)) found

/-- The owner is the first one that is found. -/
theorem iff_find? {declares : Enclosing → Bool} :
    CallOwner (declares · = true) imported types owner ↔
      owner = (((types.find? declares).map (·.qualified)).or imported).or
        (types.head?.map (·.qualified)) := by
  constructor
  · intro goes
    cases goes with
    | @declared inner outer type earlier here =>
        have before : inner.find? declares = none := List.find?_eq_none.mpr earlier
        rw [List.find?_append, before, Option.none_or, List.find?_cons_of_pos here]
        rfl
    | imported nowhere found =>
        rw [List.find?_eq_none.mpr nowhere, found]
        rfl
    | innermost nowhere found =>
        rw [List.find?_eq_none.mpr nowhere, found]
        rfl
  · rintro rfl
    cases found : types.find? declares with
    | some type =>
        obtain ⟨here, inner, outer, rfl, before⟩ := List.find?_eq_some_iff_append.mp found
        exact .declared (fun other member => by simpa using before other member) here
    | none =>
        have nowhere : ∀ type ∈ types, ¬ declares type = true := List.find?_eq_none.mp found
        cases imported with
        | some owner => exact .imported nowhere rfl
        | none => exact .innermost nowhere rfl

end CallOwner

theorem Scope.Holds.callOwner {scope : Scope} {source : Source} {types : List Enclosing}
    (holds : scope.Holds source types) (method : String) :
    CallOwner (source.names.declaresMethod ·.qualified method = true)
      (source.names.staticImports.find? method) types (scope.ownerOfCall method) := by
  let declares (name : String) : Bool := source.names.declaresMethod name method
  have sameNames : scope.types.map (·.qualified) = types.map (·.qualified) := by
    simpa [Function.comp_def] using congrArg (List.map Prod.fst) holds.sameTypes
  have sameFound : (scope.types.find? (declares ·.qualified)).map (·.qualified) =
      (types.find? (declares ·.qualified)).map (·.qualified) := by
    have found := congrArg (List.find? declares) sameNames
    rwa [List.find?_map, List.find?_map] at found
  have owner : scope.ownerOfCall method =
      (((types.find? (declares ·.qualified)).map (·.qualified)).or
        (source.names.staticImports.find? method)).or (types.head?.map (·.qualified)) := by
    rw [← sameFound, ← holds.currentType, Scope.ownerOfCall, holds.sameSource]
    cases scope.types.find? (declares ·.qualified) with
    | some type => rfl
    | none => cases source.names.staticImports.find? method <;> rfl
  exact CallOwner.iff_find?.mpr owner

/-- Below the unit that stands for a source, its outline has the nodes of its places.  At each
place where a method is called without an object, the call goes to the innermost type around
under whose full name the source declares such a method, or else to the type that the method is
imported from, or else to the innermost type.  Where the methods that go under the names of the
types around are the types' own, this is the innermost type that declares the method itself. -/
theorem outline_unqualified_calls (file : String) (chars : Array Char) (root : Tree) :
    let source := Source.ofTree chars root
    let start : Scope := { source, file }
    (outline file source root).nodes =
        (outline file source root).alone ::
          ((places start root).filterMap (·.node? start)).map Node.alone ∧
      ∀ place ∈ places start root, place.tree.construct = .methodInvocation →
        place.tree.child? .object = none →
        ∀ method, source.childText? place.tree .name = some method →
          let types := enclosing start place.way
          let imported := Entries.find? method (source.staticImports root)
          ∃ node owner, place.node? start = some node ∧ node.kind = .methodInvocation ∧
            node.name = some method ∧ node.invocationTarget = owner.map (Scope.member method) ∧
            CallOwner (fun type =>
                source.HasMethod source.names.package root type.qualified method)
              imported types owner ∧
            ((∀ type ∈ types, type.Distinct source root method) →
              CallOwner (fun type => source.OwnMethod type.body method) imported types owner) := by
  intro source start
  refine ⟨nodes_outline file source root, ?_⟩
  intro place member call bare method named types imported
  have leads := leads_of_mem_places member
  have holds := leads.holds rfl
  let standing := Standing.along start place.way
  let owner := standing.scope.ownerOfCall method
  have here : place.node? start = some
      (standing.scope.callNode .methodInvocation place.tree method method owner) := by
    rw [holds.node?_of_call call named, Scope.methodCall, bare]
  have goes : CallOwner (fun type =>
      source.HasMethod source.names.package root type.qualified method) imported types owner := by
    have looked := holds.callOwner method
    rw [Source.find?_staticImports_ofTree] at looked
    exact looked.congr fun type _ => Source.declaresMethod_ofTree chars root type.qualified method
  refine ⟨_, owner, here, rfl, rfl, rfl, goes, fun distinct => ?_⟩
  refine goes.congr fun type around => ?_
  have apart := distinct type around
  exact ⟨apart.own, fun own => leads.hasMethod rfl around (apart.named own) own⟩

/-- A call in an inner class of a method that only the outer class declares. -/
theorem outline_unqualified_calls_inner :
    let leaf (construct : Construct) (start stop : Nat) (role : Role) : Tree :=
      { construct, span := ⟨start, stop, 1⟩, role := some role }
    let method (start stop : Nat) (statements : List Tree) : Tree :=
      { construct := .methodDeclaration, span := ⟨start, stop, 1⟩
        children :=
          [leaf .other start (start + 4) .type, leaf .identifier (start + 5) (start + 6) .name,
            leaf .parameters (start + 6) (start + 8) .parameters,
            { leaf .block (start + 8) stop .body with children := statements }] }
    let call : Tree :=
      { construct := .methodInvocation, span := ⟨35, 38, 1⟩
        children := [leaf .identifier 35 36 .name, { construct := .other, span := ⟨36, 38, 1⟩ }] }
    let statement : Tree := { construct := .other, span := ⟨35, 39, 1⟩, children := [call] }
    let inner : Tree :=
      { construct := .classDeclaration, span := ⟨18, 41, 1⟩
        children :=
          [leaf .identifier 24 25 .name,
            { leaf .classBody 25 41 .body with children := [method 26 40 [statement]] }] }
    let outer : Tree :=
      { construct := .classDeclaration, span := ⟨0, 42, 1⟩
        children :=
          [leaf .identifier 6 7 .name,
            { leaf .classBody 7 42 .body with children := [method 8 18 [], inner] }] }
    let root : Tree := { construct := .program, span := ⟨0, 42, 1⟩, children := [outer] }
    let text := "class A\x7bvoid m()\x7b\x7dclass B\x7bvoid g()\x7bm();\x7d\x7d\x7d"
    let source := Source.ofTree text.toList.toArray root
    let start : Scope := { source, file := "A.java" }
    ∃ place ∈ places start root, ∃ node owner, place.node? start = some node ∧
      node.invocationTarget = some "A.m" ∧ owner.map (Scope.member "m") = some "A.m" ∧
      CallOwner (fun type => source.OwnMethod type.body "m") none (enclosing start place.way)
        owner := by
  intro leaf method call statement inner outer root text source start
  let place := (places start root).get ⟨7, by decide +kernel⟩
  have isPlace : place ∈ places start root := List.get_mem ..
  have named : source.childText? place.tree .name = some "m" := by decide +kernel
  have bare : place.tree.child? .object = none := by decide +kernel
  obtain ⟨node, owner, here, -, -, target, -, goes⟩ :=
    (outline_unqualified_calls "A.java" text.toList.toArray root).2 place isPlace
      (by decide +kernel) bare "m" named
  have computed : (place.node? start).bind (·.invocationTarget) = some "A.m" := by decide +kernel
  have toOuter : node.invocationTarget = some "A.m" := by
    rw [here] at computed
    exact computed
  refine ⟨place, isPlace, node, owner, here, toOuter, target.symm.trans toOuter, goes ?_⟩
  have clear : ∀ type ∈ enclosing start place.way, type.named = true ∧
      (source.OwnMethod type.body "m" ∨
        source.names.declaresMethod type.qualified "m" = false) := by
    decide +kernel
  intro type around
  obtain ⟨isNamed, own | other⟩ := clear type around
  · exact ⟨fun _ => isNamed, fun _ => own⟩
  · refine ⟨fun _ => isNamed, fun has => ?_⟩
    have declares := (Source.declaresMethod_ofTree text.toList.toArray root _ "m").mpr has
    rw [other] at declares
    cases declares

/-- A call in an anonymous class of its own method, which the outer class declares as well: the
call should go to the anonymous class, but it goes to the outer class. -/
theorem not_outline_unqualified_calls_anonymous :
    let leaf (construct : Construct) (start stop : Nat) (role : Role) : Tree :=
      { construct, span := ⟨start, stop, 1⟩, role := some role }
    let method (start stop : Nat) (statements : List Tree) : Tree :=
      { construct := .methodDeclaration, span := ⟨start, stop, 1⟩
        children :=
          [leaf .other start (start + 4) .type, leaf .identifier (start + 5) (start + 6) .name,
            leaf .parameters (start + 6) (start + 8) .parameters,
            { leaf .block (start + 8) stop .body with children := statements }] }
    let call : Tree :=
      { construct := .methodInvocation, span := ⟨44, 47, 1⟩
        children := [leaf .identifier 44 45 .name, { construct := .other, span := ⟨45, 47, 1⟩ }] }
    let statement : Tree := { construct := .other, span := ⟨44, 48, 1⟩, children := [call] }
    let creation : Tree :=
      { construct := .instanceCreation, span := ⟨27, 50, 1⟩
        children :=
          [leaf .typeName 31 32 .type, { construct := .other, span := ⟨32, 34, 1⟩ },
            { construct := .classBody, span := ⟨34, 50, 1⟩
              children := [method 35 49 [statement]] }] }
    let field : Tree :=
      { construct := .fieldDeclaration, span := ⟨18, 51, 1⟩
        children :=
          [leaf .typeName 18 24 .type,
            { construct := .variableDeclarator, span := ⟨25, 50, 1⟩
              children := [leaf .identifier 25 26 .name, creation] }] }
    let outer : Tree :=
      { construct := .classDeclaration, span := ⟨0, 52, 1⟩
        children :=
          [leaf .identifier 6 7 .name,
            { leaf .classBody 7 52 .body with children := [method 8 18 [], field] }] }
    let root : Tree := { construct := .program, span := ⟨0, 52, 1⟩, children := [outer] }
    let text := "class A\x7bvoid m()\x7b\x7dObject o=new B()\x7bvoid m()\x7bm();\x7d\x7d;\x7d"
    let source := Source.ofTree text.toList.toArray root
    let start : Scope := { source, file := "A.java" }
    ∃ place ∈ places start root, place.tree.construct = .methodInvocation ∧
      place.tree.child? .object = none ∧ source.childText? place.tree .name = some "m" ∧
      (place.node? start).bind (·.invocationTarget) = some "A.m" ∧
      ∀ owner, CallOwner (fun type => source.OwnMethod type.body "m")
          (Entries.find? "m" (source.staticImports root)) (enclosing start place.way) owner →
        owner.map (Scope.member "m") = some "A$1.m" := by
  intro leaf method call statement creation field outer root text source start
  let place := (places start root).get ⟨14, by decide +kernel⟩
  refine ⟨place, List.get_mem .., by decide +kernel, by decide +kernel, by decide +kernel,
    by decide +kernel, fun owner goes => ?_⟩
  have first := CallOwner.iff_find?.mp (goes.congr fun type _ => decide_eq_true_iff.symm)
  rw [first]
  decide +kernel

end CodeGraph.Java
