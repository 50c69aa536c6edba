import CodeGraph.Java.Token

/-!
# Trees of Java sources

The tree of a source has a node for each construct and each name; keywords, brackets
and operators are left out.  Constructs without a meaning of their own for the
structure of a program are all alike.  A comment is a child of the lowest construct
that goes on after it.
-/

namespace CodeGraph.Java

inductive Construct where
  | program
  | packageDeclaration
  | importDeclaration
  | classDeclaration
  | interfaceDeclaration
  | recordDeclaration
  | enumDeclaration
  | annotationTypeDeclaration
  | superclass
  /-- What a class implements, or an interface extends. -/
  | superInterfaces
  | typeList
  | classBody
  /-- The members of an enumeration after its constants. -/
  | enumMembers
  | fieldDeclaration
  | variableDeclarator
  | methodDeclaration
  | constructorDeclaration
  /-- The constructor of a record, without parameters. -/
  | compactConstructor
  | staticInitializer
  | parameters
  | parameter
  /-- A block of statements, or the body of a constructor. -/
  | block
  | localVariableDeclaration
  | forEach
  | methodInvocation
  | constructorInvocation
  | instanceCreation
  | lambda
  | fieldAccess
  | parenthesized
  | text
  | this
  | super
  | identifier
  | qualifiedName
  | typeName
  | qualifiedTypeName
  | genericType
  | comment
  | other
deriving DecidableEq, Repr, Inhabited

inductive Role where
  | name
  | type
  | body
  | parameters
  /-- What a member is selected from, or called on. -/
  | object
  | member
  | constructor
deriving DecidableEq, Repr

structure Tree where
  construct : Construct
  span : Span
  role : Option Role := none
  children : List Tree := []
deriving Inhabited, Repr

namespace Tree

def inRole (role : Option Role) (tree : Tree) : Tree :=
  match role with
  | some role => { tree with role := some role }
  | none => tree

/-- The first child with a role. -/
def child? (tree : Tree) (role : Role) : Option Tree :=
  tree.children.find? (·.role == some role)

def chars (source : Array Char) (tree : Tree) : List Char :=
  (source.extract tree.span.start tree.span.stop).toList

def textIn (source : Array Char) (tree : Tree) : String :=
  String.ofList (tree.chars source)

def ofComment (span : Span) : Tree := { construct := .comment, span }

mutual

def withComments : Tree → List Span → Tree
  | ⟨construct, span, role, children⟩, comments =>
      ⟨construct, span, role, weave children comments⟩

/-- Puts comments between and into trees that stand side by side. -/
def weave : List Tree → List Span → List Tree
  | [], comments => comments.map ofComment
  | tree :: trees, comments =>
      let start := tree.span.start
      let stop := tree.span.stop
      let before := comments.takeWhile fun comment => comment.start < start
      let rest := comments.dropWhile fun comment => comment.start < start
      let inside := rest.takeWhile fun comment => comment.start < stop
      let after := rest.dropWhile fun comment => comment.start < stop
      before.map ofComment ++ withComments tree inside :: weave trees after

end

end Tree

end CodeGraph.Java
