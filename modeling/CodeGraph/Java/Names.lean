import CodeGraph.Java.Tree
import CodeGraph.OrderedMap
import CodeGraph.Text.Blank
import CodeGraph.Text.Uppercase

/-!
# Names in Java sources

What a source alone tells about names: its package, what it imports, and which types
and methods it declares.  A simple name of a type is looked up among the imports, the
declared types and the types that need no import, in this order, and otherwise
belongs to the package of the source.
-/

namespace CodeGraph.Java

/-- A name inside a package or a type; at the top there is no dot. -/
def qualify (outer name : String) : String :=
  if outer.isEmpty then name else outer ++ "." ++ name

/-- The types that need no import. -/
def knownTypes : List String :=
  ["AutoCloseable", "Boolean", "Byte", "Character", "Class", "Cloneable", "Comparable",
    "Double", "Enum", "Error", "Exception", "Float", "IllegalArgumentException",
    "IllegalStateException", "Integer", "Iterable", "Long", "Math",
    "NullPointerException", "Number", "Object", "Override", "Record", "Runnable",
    "RuntimeException", "Short", "String", "StringBuilder", "System", "Thread",
    "Throwable", "UnsupportedOperationException", "Void"]

/-- The characters outside of angle brackets, without blanks. -/
def withoutArguments : Nat → List Char → List Char
  | _, [] => []
  | depth, '<' :: rest => withoutArguments (depth + 1) rest
  | depth, '>' :: rest => withoutArguments (depth - 1) rest
  | 0, char :: rest =>
      if Text.isBlank char then withoutArguments 0 rest
      else char :: withoutArguments 0 rest
  | depth + 1, _ :: rest => withoutArguments (depth + 1) rest

def isCapitalized (name : List Char) : Bool := name.head?.any Text.isUppercase

structure Names where
  package : String := ""
  imports : OrderedMap String := OrderedMap.empty
  staticImports : OrderedMap String := OrderedMap.empty
  /-- The full names of the declared types, the first of each simple name. -/
  declared : OrderedMap String := OrderedMap.empty
  /-- The full names of all declared types. -/
  types : List String := []
  /-- The declared methods, each with the type that declares it. -/
  methods : List (String × String) := []
deriving Inhabited

namespace Names

/-! ## Imports -/

/-- The characters after a word at the start. -/
def afterWord? (word : String) (chars : List Char) : Option (List Char) :=
  if word.toList.isPrefixOf chars then some (chars.drop word.length) else none

/-- The characters of an import without what surrounds the name: whether the import is
static, and the name without blanks. -/
def importedName (chars : List Char) : Bool × List Char :=
  let trimmed := Text.trimChars chars
  let named := (afterWord? "import" trimmed).getD trimmed
  let closed := Text.trimChars (Text.dropEndWhile (· == ';') named)
  let (isStatic, path) :=
    match afterWord? "static" closed with
    | some rest =>
        if rest.head?.any Text.isBlank then (true, rest) else (false, closed)
    | none => (false, closed)
  (isStatic, (Text.words path).flatten)

def addImport (names : Names) (chars : List Char) : Names :=
  let (isStatic, path) := importedName chars
  if ".*".toList.isSuffixOf path then names
  else
    match Text.cutAtLast '.' path with
    | none => names
    | some (owner, simple) =>
        let simple := String.ofList simple
        if isStatic then
          { names with
            staticImports := names.staticImports.insert simple (String.ofList owner) }
        else { names with imports := names.imports.insert simple (String.ofList path) }

/-! ## Declarations -/

/-- The names with a declared type added; its simple name may be taken. -/
def addType (names : Names) (name qualified : String) : Names :=
  { names with
    declared :=
      if (names.declared.find? name).isSome then names.declared
      else names.declared.insert name qualified
    types := qualified :: names.types }

def addMethod (names : Names) (owner method : String) : Names :=
  { names with methods := (owner, method) :: names.methods }

def declaresMethod (names : Names) (owner method : String) : Bool :=
  names.methods.contains (owner, method)

/-! ## Resolution -/

def resolveSimple (names : Names) (name : String) : String :=
  match names.imports.find? name with
  | some qualified => qualified
  | none =>
      match names.declared.find? name with
      | some qualified => qualified
      | none =>
          if knownTypes.contains name then "java.lang." ++ name
          else qualify names.package name

/-- The full name of the type written as given: a capitalized first part is a type to
be resolved, any other name with dots is a full name already. -/
def resolve (names : Names) (chars : List Char) : String :=
  let written := withoutArguments 0 chars
  match Text.cutAtFirst '.' written with
  | none => names.resolveSimple (String.ofList written)
  | some (first, rest) =>
      if isCapitalized first then
        names.resolveSimple (String.ofList first) ++ "." ++ String.ofList rest
      else String.ofList written

end Names

structure Source where
  chars : Array Char
  names : Names := {}

namespace Source

def text (source : Source) (tree : Tree) : String := tree.textIn source.chars

/-- The text of the first child with a role. -/
def childText? (source : Source) (tree : Tree) (role : Role) : Option String :=
  (tree.child? role).map source.text

/-- The name of a type node without type arguments. -/
private def plainTypeName? (source : Source) (tree : Tree) : Option String :=
  match tree.construct with
  | .typeName =>
      let name := source.text tree
      if name = "var" then none else some (source.names.resolveSimple name)
  | .qualifiedTypeName => some (source.names.resolve (tree.chars source.chars))
  | _ => none

/-- The full name of the type of a type node; basic types and arrays have none. -/
def typeName? (source : Source) (tree : Tree) : Option String :=
  match tree.construct with
  | .genericType =>
      (tree.children.find? fun child =>
          child.construct = .typeName ∨ child.construct = .qualifiedTypeName).bind
        source.plainTypeName?
  | _ => source.plainTypeName? tree

/-- The full name of the type of the first child that is a type. -/
def childType? (source : Source) (tree : Tree) : Option String :=
  (tree.child? .type).bind source.typeName?

/-- The declared variables of a declaration with their type, if it has a name. -/
def variableTypes (source : Source) (tree : Tree) : List (String × String) :=
  match source.childType? tree with
  | none => []
  | some type =>
      (tree.children.filter (·.construct = .variableDeclarator)).filterMap fun child =>
        (source.childText? child .name).map fun name => (name, type)

def packageName (source : Source) (tree : Tree) : String :=
  match tree.children.find? fun child =>
      child.construct = .qualifiedName ∨ child.construct = .identifier with
  | some name => String.ofList (withoutArguments 0 (name.chars source.chars))
  | none => ""

def addHeader (source : Source) (names : Names) (tree : Tree) : Names :=
  match tree.construct with
  | .packageDeclaration => { names with package := source.packageName tree }
  | .importDeclaration => names.addImport (tree.chars source.chars)
  | _ => names

def declaresType : Construct → Bool
  | .classDeclaration | .interfaceDeclaration | .recordDeclaration | .enumDeclaration
  | .annotationTypeDeclaration => true
  | _ => false

structure Surroundings where
  parent : Construct
  /-- The full name that the names of types are put behind. -/
  outer : String
  /-- The type that methods belong to; the methods of an anonymous class have none. -/
  owner : Option String

def Surroundings.within (around : Surroundings) (construct : Construct)
    (name : Option String) : Surroundings :=
  match declaresType construct, name with
  | true, some name =>
      let qualified := qualify around.outer name
      ⟨construct, qualified, some qualified⟩
  | _, _ =>
      if construct = .classBody ∧ around.parent = .instanceCreation then
        ⟨construct, around.outer, none⟩
      else ⟨construct, around.outer, around.owner⟩

/-- The names with the one that a construct declares itself. -/
def Surroundings.declare (around : Surroundings) (construct : Construct)
    (name : Option String) (names : Names) : Names :=
  match name with
  | none => names
  | some name =>
      if declaresType construct then names.addType name (qualify around.outer name)
      else
        match construct, around.owner with
        | .methodDeclaration, some owner => names.addMethod owner name
        | _, _ => names

mutual

def addDeclared (source : Source) (around : Surroundings) : Tree → Names → Names
  | ⟨construct, span, role, children⟩, names =>
      let tree : Tree := ⟨construct, span, role, children⟩
      let name := source.childText? tree .name
      addAllDeclared source (around.within construct name) children
        (around.declare construct name names)

/-- The names with those declared by several trees. -/
def addAllDeclared (source : Source) (around : Surroundings) : List Tree → Names → Names
  | [], names => names
  | tree :: trees, names =>
      addAllDeclared source around trees (addDeclared source around tree names)

end

def ofTree (chars : Array Char) (tree : Tree) : Source :=
  let source : Source := { chars }
  let header := tree.children.foldl source.addHeader {}
  let names :=
    source.addAllDeclared ⟨tree.construct, header.package, none⟩ tree.children header
  { source with names }

end Source

end CodeGraph.Java
