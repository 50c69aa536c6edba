import CodeGraph.Proofs.Java.Opening
import CodeGraph.Proofs.OrderedMap

/-!
# What Java sources declare

The names of a source are collected before it is outlined.  A method is put down for the type
around it: the full name of that type is made of the names of the types around, and the body of
an anonymous class cuts the method off from them.
-/

namespace CodeGraph.Java

/-- The tree is inside of the root, with these trees around it, the innermost first. -/
inductive Tree.Below (root : Tree) : List Tree → Tree → Prop where
  | child {tree : Tree} : tree ∈ root.children → Below root [] tree
  | deeper {around : List Tree} {parent tree : Tree} :
      Below root around parent → tree ∈ parent.children → Below root (parent :: around) tree

namespace Source

/-! ## Methods and the types around them -/

/-- What the names of types are put behind inside of these trees. -/
def nameAround (source : Source) (package : String) : List Tree → String
  | [] => package
  | tree :: around =>
      match source.typeDeclared? tree with
      | some name => qualify (nameAround source package around) name
      | none => nameAround source package around

/-- The type to which a method inside of these trees belongs.  In the body of an anonymous
class there is none. -/
def typeAround? (source : Source) (package : String) (root : Tree) : List Tree → Option String
  | [] => none
  | tree :: around =>
      match source.typeDeclared? tree with
      | some name => some (qualify (source.nameAround package around) name)
      | none =>
          if tree.construct = .classBody ∧
              (around.headD root).construct = .instanceCreation then none
          else typeAround? source package root around

/-- The body of a declared type, which declares no type itself, belongs to the type. -/
theorem around_body {source : Source} {type body : Tree} {name : String}
    (declared : source.typeDeclared? type = some name)
    (undeclared : source.typeDeclared? body = none) (package : String) (root : Tree)
    (around : List Tree) :
    let qualified := qualify (source.nameAround package around) name
    source.nameAround package (body :: type :: around) = qualified ∧
      source.typeAround? package root (body :: type :: around) = some qualified := by
  have other : type.construct ≠ .instanceCreation := by
    intro same
    rw [typeDeclared?, same] at declared
    cases declared
  simp only [nameAround, typeAround?, declared, undeclared, List.headD_cons, other, and_false,
    if_false, and_self]

/-- A method is declared somewhere, and the type around it has this full name. -/
def HasMethod (source : Source) (package : String) (root : Tree) (type method : String) : Prop :=
  ∃ around tree, root.Below around tree ∧ tree.construct = .methodDeclaration ∧
    source.childText? tree .name = some method ∧
    source.typeAround? package root around = some type

def surroundings (source : Source) (package : String) (root : Tree) (around : List Tree) :
    Surroundings where
  parent := (around.headD root).construct
  outer := source.nameAround package around
  owner := source.typeAround? package root around

theorem within_of_typeDeclared? {source : Source} {tree : Tree} {name : String}
    (declared : source.typeDeclared? tree = some name) (around : Surroundings) :
    around.within tree.construct (source.childText? tree .name) =
      ⟨tree.construct, qualify around.outer name, some (qualify around.outer name)⟩ := by
  obtain ⟨declares, named⟩ := Option.ite_none_right_eq_some.mp declared
  unfold Surroundings.within
  rw [declares, named]

theorem within_of_undeclared {source : Source} {tree : Tree}
    (undeclared : source.typeDeclared? tree = none) (around : Surroundings) :
    around.within tree.construct (source.childText? tree .name) =
      ⟨tree.construct, around.outer,
        if tree.construct = .classBody ∧ around.parent = .instanceCreation then none
        else around.owner⟩ := by
  have plain : ¬ ∃ name, declaresType tree.construct = true ∧
      source.childText? tree .name = some name := by
    rintro ⟨name, declares, named⟩
    rw [typeDeclared?, if_pos declares, named] at undeclared
    cases undeclared
  unfold Surroundings.within
  split
  next declares named => exact absurd ⟨_, declares, named⟩ plain
  next => split <;> rfl

theorem within_surroundings (source : Source) (package : String) (root tree : Tree)
    (around : List Tree) :
    (source.surroundings package root around).within tree.construct
        (source.childText? tree .name) =
      source.surroundings package root (tree :: around) := by
  simp only [surroundings, nameAround, typeAround?, List.headD_cons]
  cases declared : source.typeDeclared? tree with
  | some name => exact within_of_typeDeclared? declared _
  | none => exact within_of_undeclared declared _

theorem addDeclared_eq (source : Source) (around : Surroundings) (tree : Tree) (names : Names) :
    source.addDeclared around tree names =
      source.addAllDeclared (around.within tree.construct (source.childText? tree .name))
        tree.children
        (around.declare tree.construct (source.childText? tree .name) names) := by
  cases tree
  rw [addDeclared]

/-! ## What is put down -/

/-- Names have it after a declaration just if the declaration puts it down or they had it
before. -/
def PutDown (has : Names → Prop) (puts : Surroundings → Construct → Option String → Prop) : Prop :=
  ∀ around construct name names,
    has (around.declare construct name names) ↔ puts around construct name ∨ has names

section

variable {source : Source} {package : String} {root : Tree} {has : Names → Prop}
  {puts : Surroundings → Construct → Option String → Prop}

theorem PutDown.kept (putDown : PutDown has puts) {names : Names} (before : has names)
    (source : Source) (around : Surroundings) (trees : List Tree) :
    has (source.addAllDeclared around trees names) := by
  refine addAllDeclared_induction ?_ around before
  refine fun tree _ => addDeclared_induction ?_ source tree
  exact fun around construct name names before => (putDown ..).mpr (.inr before)

/-- Only what a tree puts down is there. -/
theorem puts_of_addAllDeclared {around : List Tree} {trees : List Tree} {names : Names}
    {here : Prop}
    (each : ∀ tree ∈ trees, ∀ names,
      has (source.addDeclared (source.surroundings package root around) tree names) →
        here ∨ has names)
    (found : has (source.addAllDeclared (source.surroundings package root around) trees names)) :
    here ∨ has names := by
  induction trees generalizing names with
  | nil => exact .inr found
  | cons tree trees induction =>
      obtain ⟨first, rest⟩ := List.forall_mem_cons.mp each
      rw [addAllDeclared] at found
      exact (induction rest found).elim .inl (first names)

theorem PutDown.of_addDeclared (putDown : PutDown has puts) {around : List Tree} {tree : Tree}
    {names : Names} (below : root.Below around tree)
    (found : has (source.addDeclared (source.surroundings package root around) tree names)) :
    (∃ around tree, root.Below around tree ∧
      puts (source.surroundings package root around) tree.construct
        (source.childText? tree .name)) ∨ has names := by
  induction tree using Tree.induction generalizing around names with
  | step tree induction =>
      rw [addDeclared_eq, within_surroundings] at found
      rcases puts_of_addAllDeclared
        (fun child isChild names => induction child isChild (below.deeper isChild)) found with
        inside | after
      · exact .inl inside
      · exact ((putDown ..).mp after).imp_left fun here => ⟨around, tree, below, here⟩

/-- Collecting names from several trees comes to each of them. -/
theorem PutDown.of_mem (putDown : PutDown has puts) {around : Surroundings} {tree : Tree}
    {trees : List Tree} (isTree : tree ∈ trees) (names : Names) :
    ∃ before, has (source.addDeclared around tree before) →
      has (source.addAllDeclared around trees names) := by
  obtain ⟨early, late, rfl⟩ := List.append_of_mem isTree
  clear isTree
  induction early generalizing names with
  | nil => exact ⟨names, fun found => putDown.kept found source around late⟩
  | cons first early induction => exact induction (source.addDeclared around first names)

theorem PutDown.of_below (putDown : PutDown has puts) {around : List Tree} {tree : Tree}
    (below : root.Below around tree) (names : Names) :
    ∃ before,
      has (source.addDeclared (source.surroundings package root around) tree before) →
        has (source.addAllDeclared (source.surroundings package root []) root.children names) := by
  induction below with
  | child isChild => exact putDown.of_mem isChild names
  | @deeper around parent tree _ isChild induction =>
      obtain ⟨before, collected⟩ := induction
      rw [addDeclared_eq, within_surroundings] at collected
      obtain ⟨earlier, inside⟩ := putDown.of_mem isChild _
      exact ⟨earlier, fun found => collected (inside found)⟩

/-- Collecting puts down what some tree below the root does. -/
theorem PutDown.iff (putDown : PutDown has puts) (source : Source) (package : String)
    (root : Tree) (names : Names) :
    has (source.addAllDeclared (source.surroundings package root []) root.children names) ↔
      (∃ around tree, root.Below around tree ∧
        puts (source.surroundings package root around) tree.construct
          (source.childText? tree .name)) ∨ has names := by
  constructor
  · exact puts_of_addAllDeclared
      fun tree isChild names => putDown.of_addDeclared (.child isChild)
  · rintro (⟨around, tree, below, here⟩ | earlier)
    · obtain ⟨before, collected⟩ := putDown.of_below below names
      refine collected ?_
      rw [addDeclared_eq]
      exact putDown.kept ((putDown ..).mpr (.inl here)) source _ _
    · exact putDown.kept earlier source _ _

end

theorem putDown_method (type method : String) :
    PutDown ((type, method) ∈ ·.methods) fun around construct name =>
      construct = .methodDeclaration ∧ name = some method ∧ around.owner = some type := by
  intro around construct name names
  unfold Surroundings.declare
  cases name with
  | none => simp
  | some name =>
      dsimp only
      by_cases isMethod : construct = .methodDeclaration
      · subst isMethod
        cases around.owner <;> simp [declaresType, Names.addMethod, eq_comm, and_comm]
      · split
        · simp [Names.addType, isMethod]
        · simp [isMethod]

theorem putDown_type (type : String) :
    PutDown (type ∈ ·.types) fun around construct name =>
      declaresType construct = true ∧ ∃ given, name = some given ∧
        qualify around.outer given = type := by
  intro around construct name names
  unfold Surroundings.declare
  cases name with
  | none => simp
  | some name =>
      dsimp only
      by_cases isType : declaresType construct = true
      · simp [isType, Names.addType, @eq_comm _ type]
      · rw [if_neg isType]
        split
        · simp [isType, Names.addMethod]
        · simp [isType]

/-- The header of a source puts no declarations down. -/
theorem foldl_addHeader (source : Source) (trees : List Tree) (names : Names) :
    (trees.foldl source.addHeader names).methods = names.methods ∧
      (trees.foldl source.addHeader names).types = names.types := by
  induction trees generalizing names with
  | nil => exact ⟨rfl, rfl⟩
  | cons tree trees induction =>
      rw [List.foldl_cons, (induction _).1, (induction _).2]
      unfold addHeader
      split
      · exact ⟨rfl, rfl⟩
      · obtain ⟨_, _, same⟩ := exists_addImport_eq names (tree.chars source.chars)
        rw [same]
        exact ⟨rfl, rfl⟩
      · exact ⟨rfl, rfl⟩

/-- The types around trees do not depend on the names that a source already has. -/
theorem typeAround?_chars (source : Source) (package : String) (root : Tree)
    (around : List Tree) :
    source.typeAround? package root around =
        typeAround? { chars := source.chars } package root around ∧
      source.nameAround package around = nameAround { chars := source.chars } package around := by
  induction around with
  | nil => exact ⟨rfl, rfl⟩
  | cons tree around induction =>
      obtain ⟨sameType, sameName⟩ := induction
      simp only [typeAround?, nameAround, sameType, sameName]
      exact ⟨rfl, rfl⟩

/-- The names of a source have the methods that are declared, under the types around them. -/
theorem declaresMethod_ofTree (chars : Array Char) (root : Tree) (type method : String) :
    let source := ofTree chars root
    source.names.declaresMethod type method = true ↔
      source.HasMethod source.names.package root type method := by
  intro source
  let header := root.children.foldl (addHeader { chars }) {}
  have package : source.names.package = header.package := package_addAllDeclared ..
  have nothing : header.methods = [] := (foldl_addHeader { chars } root.children {}).1
  have collected : (type, method) ∈ source.names.methods ↔
      HasMethod { chars } header.package root type method := by
    refine ((putDown_method type method).iff { chars } header.package root header).trans ?_
    rw [nothing]
    exact or_iff_left List.not_mem_nil
  rw [Names.declaresMethod, List.contains_iff_mem, package, collected]
  have same := fun around => (source.typeAround?_chars header.package root around).1
  simp only [HasMethod, same]
  rfl

/-- A type is declared somewhere, and it has this full name. -/
def HasType (source : Source) (package : String) (root : Tree) (type : String) : Prop :=
  ∃ around tree name, root.Below around tree ∧ source.typeDeclared? tree = some name ∧
    qualify (source.nameAround package around) name = type

/-- The names of a source have the types that are declared. -/
theorem mem_types_ofTree (chars : Array Char) (root : Tree) (type : String) :
    let source := ofTree chars root
    type ∈ source.names.types ↔ source.HasType source.names.package root type := by
  intro source
  let header := root.children.foldl (addHeader { chars }) {}
  have package : source.names.package = header.package := package_addAllDeclared ..
  have nothing : header.types = [] := (foldl_addHeader { chars } root.children {}).2
  refine ((putDown_type type).iff { chars } header.package root header).trans ?_
  rw [nothing, or_iff_left List.not_mem_nil, package]
  have same := fun around => (source.typeAround?_chars header.package root around).2
  simp only [HasType, same]
  constructor
  · rintro ⟨around, tree, below, declares, name, named, qualified⟩
    have isType : source.typeDeclared? tree = some name :=
      Option.ite_none_right_eq_some.mpr ⟨declares, named⟩
    exact ⟨around, tree, name, below, isType, qualified⟩
  · rintro ⟨around, tree, name, below, declared, qualified⟩
    obtain ⟨declares, named⟩ := Option.ite_none_right_eq_some.mp declared
    exact ⟨around, tree, below, declares, name, named, qualified⟩

/-! ## Static imports -/

end Source

/-- The method that a static import imports by name, with the type that it is imported from. -/
def Names.staticImport? (chars : List Char) : Option (String × String) :=
  let (isStatic, path) := importedName chars
  if isStatic = true ∧ ".*".toList.isSuffixOf path = false then
    (Text.cutAtLast '.' path).map fun (owner, simple) =>
      (String.ofList simple, String.ofList owner)
  else none

theorem Names.staticImports_addImport (names : Names) (chars : List Char) :
    (names.addImport chars).staticImports =
      insertAll names.staticImports (staticImport? chars).toList := by
  unfold addImport staticImport?
  rcases importedName chars with ⟨isStatic, path⟩
  dsimp only
  cases ".*".toList.isSuffixOf path with
  | true => simp [insertAll]
  | false =>
      cases Text.cutAtLast '.' path <;> cases isStatic <;> rfl

namespace Source

/-- The methods that are imported by name, the last import first. -/
def staticImports (source : Source) (root : Tree) : List (String × String) :=
  ((root.children.filter (·.construct = .importDeclaration)).filterMap fun tree =>
    Names.staticImport? (tree.chars source.chars)).reverse

theorem staticImports_foldl_addHeader (source : Source) (trees : List Tree) (names : Names) :
    (trees.foldl source.addHeader names).staticImports =
      insertAll names.staticImports
        ((trees.filter (·.construct = .importDeclaration)).filterMap fun tree =>
          Names.staticImport? (tree.chars source.chars)) := by
  induction trees generalizing names with
  | nil => rfl
  | cons tree trees induction =>
      rw [List.foldl_cons, induction]
      by_cases imports : tree.construct = .importDeclaration
      · have added : source.addHeader names tree = names.addImport (tree.chars source.chars) := by
          rw [addHeader, imports]
        rw [added, Names.staticImports_addImport, List.filter_cons_of_pos (by simpa using imports)]
        rw [List.filterMap_cons]
        cases Names.staticImport? (tree.chars source.chars) <;> rfl
      · rw [List.filter_cons_of_neg (by simpa using imports)]
        have kept : (source.addHeader names tree).staticImports = names.staticImports := by
          unfold addHeader
          split
          next => rfl
          next here => exact absurd here imports
          next => rfl
        rw [kept]

/-- Of the imports of a method the last one counts. -/
theorem find?_staticImports_ofTree (chars : Array Char) (root : Tree) (method : String) :
    let source := ofTree chars root
    source.names.staticImports.find? method =
      Entries.find? method (source.staticImports root) := by
  intro source
  let header := root.children.foldl (addHeader { chars }) {}
  obtain ⟨_, _, _, same⟩ := exists_addAllDeclared_eq { chars } ⟨root.construct, header.package, none⟩
    root.children header
  have kept : source.names.staticImports = header.staticImports := by
    change (addAllDeclared _ _ _ header).staticImports = _
    rw [same]
  rw [kept, staticImports_foldl_addHeader, insertAll, OrderedMap.find?_foldl_insert]
  exact Option.or_none

end Source

end CodeGraph.Java
