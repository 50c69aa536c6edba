import CodeGraph.Failure
import CodeGraph.Java.Grammar
import CodeGraph.Java.Names
import CodeGraph.Node

/-!
# Outlines of Java sources

The outline of a source is the tree of its declarations, blocks and calls.  All other
constructs are left out, and what stands in them belongs to the construct around them.
Each node knows the type and the method around it, and a call knows the method it runs
as far as the source tells: calls are resolved through `this` and `super`, through
names of types, and through the types of fields, parameters and local variables.
-/

namespace CodeGraph.Java

def constructorName : String := "<init>"

structure TypeScope where
  qualified : String
  superclass : Option String := none
  fields : OrderedMap String := OrderedMap.empty

structure Scope where
  source : Source
  file : String
  /-- The types around, the innermost first. -/
  types : List TypeScope := []
  method : Option String := none

/-- What has been met so far in the innermost type. -/
structure Progress where
  locals : OrderedMap String := OrderedMap.empty
  anonymous : Nat := 0

abbrev Outlining := StateM Progress

/-- The map with several entries inserted in turn. -/
def insertAll (map : OrderedMap String) (entries : List (String × String)) :
    OrderedMap String :=
  entries.foldl (fun map entry => map.insert entry.1 entry.2) map

namespace Source

mutual

def memberFields (source : Source) : Tree → List (String × String)
  | ⟨construct, span, role, children⟩ =>
      match construct with
      | .fieldDeclaration => source.variableTypes ⟨construct, span, role, children⟩
      | .enumMembers => allMemberFields source children
      | _ => []

def allMemberFields (source : Source) : List Tree → List (String × String)
  | [] => []
  | tree :: trees => memberFields source tree ++ allMemberFields source trees

end

def fields (source : Source) (body : Tree) : OrderedMap String :=
  OrderedMap.ofList (source.allMemberFields body.children)

def parameters (source : Source) (tree : Tree) : List (String × String) :=
  match tree.child? .parameters with
  | none => []
  | some parameters =>
      (parameters.children.filter (·.construct = .parameter)).filterMap fun parameter =>
        match source.childType? parameter, source.childText? parameter .name with
        | some type, some name => some (name, type)
        | _, _ => none

mutual

def typeReferences (source : Source) : Tree → List String
  | ⟨construct, span, role, children⟩ =>
      match construct with
      | .typeName | .qualifiedTypeName | .genericType =>
          (source.typeName? ⟨construct, span, role, children⟩).toList
      | .typeList => allTypeReferences source children
      | _ => []

/-- The type references under several trees. -/
def allTypeReferences (source : Source) : List Tree → List String
  | [] => []
  | tree :: trees => typeReferences source tree ++ allTypeReferences source trees

end

def superTypes (source : Source) (tree : Tree) : List SuperType :=
  tree.children.flatMap fun child =>
    match child.construct with
    | .superclass => (source.allTypeReferences child.children).map (⟨·, false⟩)
    | .superInterfaces => (source.allTypeReferences child.children).map (⟨·, true⟩)
    | _ => []

end Source

namespace Scope

def currentType (scope : Scope) : Option String := scope.types.head?.map (·.qualified)

def superclass (scope : Scope) : Option String := scope.types.head?.bind (·.superclass)

def inType (scope : Scope) (type : TypeScope) : Scope :=
  { scope with types := type :: scope.types, method := none }

def inMethod (scope : Scope) (method : String) : Scope := { scope with method := some method }

/-- The type of a variable: a parameter or local variable, or else a field of a type
around, the innermost first. -/
def variableType? (scope : Scope) (locals : OrderedMap String) (name : String) :
    Option String :=
  match locals.find? name with
  | some type => some type
  | none => scope.types.findSome? (·.fields.find? name)

def memberType? (scope : Scope) (tree : Tree) : Option String :=
  match tree.child? .object with
  | none => none
  | some object =>
      if object.construct = .this then
        match scope.source.childText? tree .member with
        | none => none
        | some name => scope.types.head?.bind (·.fields.find? name)
      else
        let chars := tree.chars scope.source.chars
        let last :=
          match Text.cutAtLast '.' chars with
          | some (_, last) => last
          | none => chars
        if isCapitalized (Text.trimChars last) then some (scope.source.names.resolve chars)
        else none

/-- The type of the object that a method is called on, where the source tells it. -/
def receiverType? (scope : Scope) (locals : OrderedMap String) : Tree → Option String
  | ⟨construct, span, role, children⟩ =>
      let tree : Tree := ⟨construct, span, role, children⟩
      match construct with
      | .identifier =>
          let name := scope.source.text tree
          match scope.variableType? locals name with
          | some type => some type
          | none =>
              if isCapitalized name.toList then some (scope.source.names.resolveSimple name)
              else none
      | .fieldAccess => scope.memberType? tree
      | .instanceCreation => scope.source.childType? tree
      | .text => some "java.lang.String"
      | .parenthesized =>
          match children with
          | inner :: _ => receiverType? scope locals inner
          | [] => none
      | _ => none

/-- The type that a method called without an object belongs to: the innermost type
around that declares it, or else the type it is imported from, or else the innermost
type. -/
def ownerOfCall (scope : Scope) (method : String) : Option String :=
  match scope.types.find? fun type =>
      scope.source.names.declaresMethod type.qualified method with
  | some type => some type.qualified
  | none =>
      match scope.source.names.staticImports.find? method with
      | some owner => some owner
      | none => scope.currentType

/-! ## Nodes -/

def located (scope : Scope) (kind : Kind) (tree : Tree) : Node :=
  { kind, line := tree.span.line, file := some scope.file }

/-- The member of a type, which may be a type itself. -/
def member (name : String) (type : String) : String := type ++ "." ++ name

/-- A call of a method of a type, if that is known. -/
def callNode (scope : Scope) (kind : Kind) (tree : Tree) (name : String)
    (method : String) (owner : Option String) : Node :=
  { scope.located kind tree with
    name := some name
    declaringType := scope.currentType
    enclosingMethod := scope.method
    invocationTarget := owner.map (member method) }

def methodCall (scope : Scope) (locals : OrderedMap String) (tree : Tree)
    (name : String) : Node :=
  let (kind, owner) : Kind × Option String :=
    match tree.child? .object with
    | none => (.methodInvocation, scope.ownerOfCall name)
    | some object =>
        match object.construct with
        | .this => (.methodInvocation, scope.currentType)
        | .super => (.superMethodInvocation, scope.superclass)
        | _ => (.methodInvocation, scope.receiverType? locals object)
  scope.callNode kind tree name name owner

def constructorCall (scope : Scope) (tree : Tree) : Node :=
  let (kind, owner) : Kind × Option String :=
    if (tree.child? .constructor).any (·.construct = .super) then
      (.superMethodInvocation, scope.superclass)
    else (.methodInvocation, scope.currentType)
  scope.callNode kind tree constructorName constructorName owner

/-- The name of the type that an instance is created of, without type arguments. -/
def createdName (scope : Scope) (tree : Tree) : String :=
  match tree.child? .type with
  | some type => String.ofList (withoutArguments 0 (type.chars scope.source.chars))
  | none => ""

def creation (scope : Scope) (tree : Tree) : Node :=
  scope.callNode .classInstanceCreation tree (scope.createdName tree) constructorName
    (scope.source.childType? tree)

/-- The node of a declared type, and the scope inside it. -/
def typeNode (scope : Scope) (kind : Kind) (tree : Tree) (name : String) : Node × Scope :=
  let qualified :=
    match scope.currentType with
    | some outer => qualify outer name
    | none => qualify scope.source.names.package name
  let superTypes := scope.source.superTypes tree
  let node : Node :=
    { scope.located kind tree with
      name := some name
      qualifiedName := some qualified
      declaringType := scope.currentType
      superTypes }
  let type : TypeScope :=
    { qualified
      superclass := ((superTypes.filter (! ·.isInterface)).getLast?).map (·.name)
      fields :=
        match tree.child? .body with
        | some body => scope.source.fields body
        | none => OrderedMap.empty }
  (node, scope.inType type)

/-- The node of an anonymous class with a body, and the scope inside it. -/
def anonymousNode (scope : Scope) (created : Tree) (outer : String) (number : Nat)
    (body : Tree) : Node × Scope :=
  let qualified := outer ++ "$" ++ toString number
  let node : Node :=
    { scope.located .anonymousClassDeclaration body with
      name := some (scope.createdName created)
      qualifiedName := some qualified
      declaringType := some outer }
  let type : TypeScope :=
    { qualified
      superclass := scope.source.childType? created
      fields := scope.source.fields body }
  (node, scope.inType type)

def methodName? (scope : Scope) (tree : Tree) : Option String :=
  if tree.construct = .methodDeclaration then scope.source.childText? tree .name
  else some constructorName

def methodNode (scope : Scope) (tree : Tree) (owner name : String) : Node :=
  { scope.located .methodDeclaration tree with
    name := some name
    qualifiedName := some (member name owner)
    declaringType := some owner }

/-- The node of a field declaration, named after its first variable if that has a type
with a name. -/
def fieldNode (scope : Scope) (tree : Tree) : Node :=
  { scope.located .fieldDeclaration tree with
    name := (scope.source.variableTypes tree).head?.map (·.1)
    declaringType := scope.currentType }

def typeKind : Construct → Kind
  | .enumDeclaration => .enumDeclaration
  | .annotationTypeDeclaration => .annotationTypeDeclaration
  | _ => .typeDeclaration

def declaredLocals (scope : Scope) (tree : Tree) : List (String × String) :=
  match tree.construct with
  | .localVariableDeclaration => scope.source.variableTypes tree
  | .forEach =>
      match scope.source.childType? tree, scope.source.childText? tree .name with
      | some type, some name => [(name, type)]
      | _, _ => []
  | _ => []

/-- The node of a construct that is kept for its place only. -/
def plainNode? (scope : Scope) (tree : Tree) : Option Node :=
  match tree.construct with
  | .fieldDeclaration => some (scope.fieldNode tree)
  | .block => some (scope.located .block tree)
  | .lambda => some (scope.located .lambdaExpression tree)
  | .staticInitializer =>
      some { scope.located .other tree with name := some "static" }
  | _ => none

/-- The node of a construct that has no parts, if it has a node. -/
def leafNode? (scope : Scope) (tree : Tree) : Option Node :=
  let chars := tree.chars scope.source.chars
  match tree.construct with
  | .packageDeclaration =>
      some { scope.located .packageDeclaration tree with
        qualifiedName := some (scope.source.packageName tree) }
  | .importDeclaration =>
      let written := Text.trimChars (Text.dropEndWhile (· == ';') chars)
      some { scope.located .importDeclaration tree with
        name := some (String.ofList written) }
  | .comment =>
      if "/**".toList.isPrefixOf chars then some (scope.located .javadoc tree) else none
  | _ => none

/-! ## Outlines -/

/-- Goes on with nothing met, and comes back to what had been met before. -/
def afresh {α : Type} (action : Outlining α) : Outlining α := do
  let before ← get
  set ({} : Progress)
  let answer ← action
  set before
  return answer

/-- Goes on with other local variables, and comes back to those from before. -/
def withLocals {α : Type} (locals : OrderedMap String) (action : Outlining α) :
    Outlining α := do
  let before ← get
  set { before with locals }
  let answer ← action
  modify fun after => { after with locals := before.locals }
  return answer

mutual

def outline (scope : Scope) : Tree → Outlining (List Node)
  | ⟨construct, span, role, children⟩ =>
      let tree : Tree := ⟨construct, span, role, children⟩
      match construct with
      | .packageDeclaration | .importDeclaration | .comment =>
          return (scope.leafNode? tree).toList
      | .classDeclaration | .interfaceDeclaration | .recordDeclaration
      | .enumDeclaration | .annotationTypeDeclaration =>
          match scope.source.childText? tree .name with
          | none => outlineAll scope children
          | some name => do
              let (node, inner) := scope.typeNode (typeKind construct) tree name
              let nodes ← afresh (outlineMembers inner children)
              return [{ node with children := nodes }]
      | .methodDeclaration | .constructorDeclaration | .compactConstructor =>
          match scope.currentType, scope.methodName? tree with
          | some owner, some name => do
              let node := scope.methodNode tree owner name
              let locals := OrderedMap.ofList (scope.source.parameters tree)
              let nodes ←
                withLocals locals (outlineBody (scope.inMethod (member name owner)) children)
              return [{ node with children := nodes }]
          | _, _ => outlineAll scope children
      | .methodInvocation =>
          match scope.source.childText? tree .name with
          | none => outlineAll scope children
          | some name => do
              let node := scope.methodCall (← get).locals tree name
              return [{ node with children := ← outlineAll scope children }]
      | .constructorInvocation => do
          let node := scope.constructorCall tree
          return [{ node with children := ← outlineAll scope children }]
      | .instanceCreation => do
          let node := scope.creation tree
          return [{ node with children := ← outlineCreated scope tree children }]
      | _ => do
          modify fun progress =>
            { progress with locals := insertAll progress.locals (scope.declaredLocals tree) }
          let nodes ← outlineAll scope children
          match scope.plainNode? tree with
          | some node => return [{ node with children := nodes }]
          | none => return nodes

/-- The nodes of several trees. -/
def outlineAll (scope : Scope) : List Tree → Outlining (List Node)
  | [] => return []
  | tree :: trees => do
      let nodes ← outline scope tree
      return nodes ++ (← outlineAll scope trees)

def outlineBody (scope : Scope) : List Tree → Outlining (List Node)
  | [] => return []
  | tree :: trees =>
      if tree.role = some .body then outline scope tree else outlineBody scope trees

def outlineMembers (scope : Scope) : List Tree → Outlining (List Node)
  | [] => return []
  | ⟨_, _, role, children⟩ :: trees =>
      if role = some .body then outlineAll scope children else outlineMembers scope trees

/-- The nodes of the parts of the creation of an instance.  A body makes an anonymous
class, which is numbered within the type around it. -/
def outlineCreated (scope : Scope) (created : Tree) : List Tree → Outlining (List Node)
  | [] => return []
  | ⟨construct, span, role, children⟩ :: trees => do
      let part : Tree := ⟨construct, span, role, children⟩
      let nodes ←
        match construct, scope.currentType with
        | .classBody, some outer => do
            let number := (← get).anonymous + 1
            modify fun progress => { progress with anonymous := number }
            let (node, inner) := scope.anonymousNode created outer number part
            let nodes ← afresh (outlineAll inner children)
            pure [{ node with children := nodes }]
        | .classBody, none => outlineAll scope children
        | _, _ => outline scope ⟨construct, span, role, children⟩
      return nodes ++ (← outlineCreated scope created trees)

end

end Scope

def outline (file : String) (source : Source) (tree : Tree) : Node :=
  let scope : Scope := { source, file }
  let package := source.names.package
  { kind := .compilationUnit
    line := 1
    file := some file
    qualifiedName := if package.isEmpty then none else some package
    children := ((scope.outlineAll tree.children).run {}).1 }

def outlineOfText (file text : String) : Except Failure Node :=
  let chars := text.toList
  match Tree.ofChars? chars with
  | none => .error (.parse file "unexpected input")
  | some tree => .ok (outline file (.ofTree chars.toArray tree) tree)

end CodeGraph.Java
