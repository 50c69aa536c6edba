/-!
# Kinds of syntax nodes

The finite universe of node kinds.  Each kind has a dense code, given by the order of
declaration, and a name; both determine the kind.
-/

namespace CodeGraph

inductive Kind where
  | compilationUnit
  | packageDeclaration
  | importDeclaration
  /-- A class, interface or record declaration. -/
  | typeDeclaration
  | enumDeclaration
  | annotationTypeDeclaration
  | anonymousClassDeclaration
  | fieldDeclaration
  | methodDeclaration
  | block
  /-- A call with or without a receiver. -/
  | methodInvocation
  | superMethodInvocation
  | classInstanceCreation
  | lambdaExpression
  | javadoc
  /-- A node that is kept without further classification. -/
  | other
deriving DecidableEq, Repr, Inhabited

namespace Kind

def count : Nat := 16

/-- Every kind, in the order of the codes. -/
def all : List Kind :=
  [compilationUnit, packageDeclaration, importDeclaration, typeDeclaration,
    enumDeclaration, annotationTypeDeclaration, anonymousClassDeclaration,
    fieldDeclaration, methodDeclaration, block, methodInvocation,
    superMethodInvocation, classInstanceCreation, lambdaExpression, javadoc, other]

def code : Kind → Nat
  | compilationUnit => 0
  | packageDeclaration => 1
  | importDeclaration => 2
  | typeDeclaration => 3
  | enumDeclaration => 4
  | annotationTypeDeclaration => 5
  | anonymousClassDeclaration => 6
  | fieldDeclaration => 7
  | methodDeclaration => 8
  | block => 9
  | methodInvocation => 10
  | superMethodInvocation => 11
  | classInstanceCreation => 12
  | lambdaExpression => 13
  | javadoc => 14
  | other => 15

def ofCode? (code : Nat) : Option Kind := all[code]?

def name : Kind → String
  | compilationUnit => "compilation_unit"
  | packageDeclaration => "package_declaration"
  | importDeclaration => "import_declaration"
  | typeDeclaration => "type_declaration"
  | enumDeclaration => "enum_declaration"
  | annotationTypeDeclaration => "annotation_type_declaration"
  | anonymousClassDeclaration => "anonymous_class_declaration"
  | fieldDeclaration => "field_declaration"
  | methodDeclaration => "method_declaration"
  | block => "block"
  | methodInvocation => "method_invocation"
  | superMethodInvocation => "super_method_invocation"
  | classInstanceCreation => "class_instance_creation"
  | lambdaExpression => "lambda_expression"
  | javadoc => "javadoc"
  | other => "other"

def ofName? (name : String) : Option Kind := all.find? (·.name = name)

/-- What is said about a name that no kind has. -/
def unknownMessage (name : String) : String := "unknown AST node kind: " ++ name

theorem mem_all (kind : Kind) : kind ∈ all := by cases kind <;> decide

theorem length_all : all.length = count := rfl

theorem ofCode?_code (kind : Kind) : ofCode? kind.code = some kind := by
  cases kind <;> rfl

end Kind

end CodeGraph
