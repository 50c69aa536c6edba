import CodeGraph.Failure
import CodeGraph.Statement

/-!
# Binding statements

Binding replaces the parameters of a statement by their values and checks how its
variables are used: each is bound before it is used, is used as what it names, and is
not used after it has been deleted.
-/

namespace CodeGraph

structure BoundNode where
  name : Option String
  label : Option String
  properties : Properties
deriving DecidableEq

structure BoundRelation where
  name : Option String
  type : String
  properties : Properties
deriving DecidableEq

inductive Making where
  | merge
  | create
deriving DecidableEq, Repr

inductive BoundClause where
  | node (making : Making) (node : BoundNode)
  | path (making : Making) (source : BoundNode) (relation : BoundRelation)
      (target : BoundNode)
  | select (nodes : List BoundNode)
  | set (name : String) (properties : Properties)
  | delete (names : List String) (detach : Bool)
deriving DecidableEq

structure BoundStatement where
  text : String
  clauses : List BoundClause
deriving DecidableEq

/-- Can running the clause fail?  What a selecting clause finds, and whether a node to
be deleted still has relationships, is known only then. -/
def BoundClause.isFallible : BoundClause → Bool
  | select _ => true
  | delete _ detach => !detach
  | _ => false

def BoundStatement.isFallible (statement : BoundStatement) : Bool :=
  statement.clauses.any BoundClause.isFallible

namespace Binding

def fault {α : Type} (text : String) (reason : StatementFault) : Except Failure α :=
  .error (.unsupportedStatement text reason)

def parameter (parameters : Parameters) (name : String) : Except Failure Json :=
  match Json.find? name parameters with
  | some value => .ok value
  | none => .error (.missingParameter name)

def value (text : String) (parameters : Parameters) :
    Expression → Except Failure PropertyValue
  | .value value => .ok value
  | .parameter name => do
      match PropertyValue.ofJson? (← parameter parameters name) with
      | some value => .ok value
      | none => fault text (.notAValue name)

def mapEntries (text name : String) : List (String × Json) → Except Failure
    (List (String × PropertyValue))
  | [] => .ok []
  | (key, json) :: rest =>
      match PropertyValue.ofJson? json with
      | none => fault text (.nestedMap name key)
      | some value => do return (key, value) :: (← mapEntries text name rest)

def map (text : String) (parameters : Parameters) :
    Expression → Except Failure Properties
  | .value _ => fault text .mapParameterNeeded
  | .parameter name => do
      match ← parameter parameters name with
      | .map entries => return OrderedMap.ofList (← mapEntries text name entries)
      | _ => fault text (.notAMap name)

/-- The values of written properties, in order. -/
def propertyValues (text : String) (parameters : Parameters) :
    PatternProperties → Except Failure (List (String × PropertyValue))
  | [] => .ok []
  | (key, expression) :: rest => do
      let first ← value text parameters expression
      return (key, first) :: (← propertyValues text parameters rest)

/-- The properties of a pattern; the last of equal keys counts. -/
def properties (text : String) (parameters : Parameters) (written : PatternProperties) :
    Except Failure Properties := do
  return OrderedMap.ofList (← propertyValues text parameters written)

def node (text : String) (parameters : Parameters) (pattern : NodePattern) :
    Except Failure BoundNode := do
  return ⟨pattern.name, pattern.label, ← properties text parameters pattern.properties⟩

def relation (text : String) (parameters : Parameters) (pattern : RelationPattern) :
    Except Failure BoundRelation := do
  return ⟨pattern.name, pattern.type, ← properties text parameters pattern.properties⟩

def made (text : String) (parameters : Parameters) (making : Making) :
    GraphPattern → Except Failure BoundClause
  | .node pattern => do return .node making (← node text parameters pattern)
  | .path source edge target => do
      return .path making (← node text parameters source)
        (← relation text parameters edge) (← node text parameters target)

def clause (text : String) (parameters : Parameters) :
    Clause → Except Failure BoundClause
  | .merge pattern => made text parameters .merge pattern
  | .create pattern => made text parameters .create pattern
  | .select nodes => do return .select (← nodes.mapM (node text parameters))
  | .setAll name expression => do return .set name (← map text parameters expression)
  | .setOne name key expression => do
      let single ← value text parameters expression
      return .set name (OrderedMap.ofList [(key, single)])
  | .delete names detach => .ok (.delete names detach)

end Binding

inductive VariableSort where
  | nodes
  | relationship
deriving DecidableEq, Repr

abbrev VariableSorts := OrderedMap VariableSort

namespace BoundNode

/-- Checks a node pattern of a merging or creating clause: a bound variable stands
alone and names nodes, and anything else has a label. -/
def check (text : String) (node : BoundNode) (bound : VariableSorts) :
    Except Failure VariableSorts :=
  match node.name, node.name.bind bound.find? with
  | some name, some .relationship => Binding.fault text (.namesRelationship name)
  | some name, some .nodes =>
      if node.label.isSome || !node.properties.entries.isEmpty then
        Binding.fault text (.alreadyBound name)
      else .ok bound
  | name, _ =>
      if node.label.isNone then Binding.fault text .missingLabel
      else
        match name with
        | some name => .ok (bound.insert name .nodes)
        | none => .ok bound

end BoundNode

namespace BoundClause

def checkDeleted (text : String) : List String → VariableSorts →
    Except Failure VariableSorts
  | [], bound => .ok bound
  | name :: names, bound =>
      match bound.find? name with
      | none => Binding.fault text (.unboundVariable name)
      | some _ => checkDeleted text names (bound.erase name)

/-- The variables that are bound after a selecting clause. -/
def afterSelect (bound : VariableSorts) (nodes : List BoundNode) : VariableSorts :=
  nodes.foldl
    (fun bound node =>
      match node.name with
      | some name => bound.insert name .nodes
      | none => bound)
    bound

/-- Checks a clause; the answer is what is bound after it. -/
def check (text : String) (bound : VariableSorts) :
    BoundClause → Except Failure VariableSorts
  | .node _ pattern => pattern.check text bound
  | .path _ source relation target => do
      let bound ← source.check text bound
      let bound ← target.check text bound
      match relation.name with
      | none => return bound
      | some name =>
          match bound.find? name with
          | some _ => Binding.fault text (.alreadyBound name)
          | none => return bound.insert name .relationship
  | .select nodes => .ok (afterSelect bound nodes)
  | .set name _ =>
      match bound.find? name with
      | none => Binding.fault text (.unboundVariable name)
      | some _ => .ok bound
  | .delete names _ => checkDeleted text names bound

end BoundClause

def BoundStatement.check (statement : BoundStatement) : Except Failure VariableSorts :=
  statement.clauses.foldlM (BoundClause.check statement.text) OrderedMap.empty

def Clause.ofText (text : String) : Except Failure (List Clause) :=
  match Token.ofChars text.toList with
  | .error fault => Binding.fault text (.lexical fault)
  | .ok [] => Binding.fault text .empty
  | .ok tokens =>
      match Clause.ofTokens tokens with
      | .error fault => Binding.fault text (.grammar fault)
      | .ok clauses => .ok clauses

/-- Reads a statement, binds it to its parameters and checks its variables. -/
def Statement.prepare (statement : Statement) : Except Failure BoundStatement := do
  let clauses ← Clause.ofText statement.text
  let bound ←
    clauses.mapM (Binding.clause statement.text (statement.parameters.getD []))
  let prepared : BoundStatement := ⟨statement.text, bound⟩
  let _ ← prepared.check
  return prepared

end CodeGraph
