import CodeGraph.Fact
import CodeGraph.Failure
import CodeGraph.Node

/-!
# Visitors

A visitor extracts facts from one syntax node and says whether the children of the
node are to be visited.  The standard visitors cover the declarations of types, the
declarations of methods, and calls.
-/

namespace CodeGraph

/-- What a visitor makes of a node: the facts it has emitted, also before a failure,
and whether to descend. -/
structure Visit where
  facts : List Fact := []
  outcome : Except Failure Bool

structure Visitor where
  name : String
  visit : Node → Visit

namespace Visitor

/-- A text that is there and is not empty. -/
private def present? : Option String → Option String
  | some text => if text.isEmpty then none else some text
  | none => none

def missing (node : Node) (what : String) : Visit :=
  { outcome := .error (.visitor node.kind ("missing " ++ what)) }

/-- The line and the file of a node, where they are known. -/
private def withLocation (fact : NodeFact) (node : Node) : NodeFact :=
  let lined := if 0 < node.line then fact.with "line" (.ofNat node.line) else fact
  match node.file with
  | some file => lined.with "file" (.text file)
  | none => lined

private def superTypeFact (source : String) (superType : SuperType) : Fact :=
  .edge
    { relation := if superType.isInterface then .implements else .inherits
      source
      target := superType.name }

def typeDeclaration : Visitor where
  name := "type_declaration"
  visit node :=
    match present? node.qualifiedName with
    | none => missing node "qualified name"
    | some qualified =>
        let fact : NodeFact := { label := .type, name := qualified }
        let named := fact.with "name" (.text (node.name.getD qualified))
        { facts := .node (withLocation named node) ::
            node.superTypes.map (superTypeFact qualified)
          outcome := .ok true }

def methodDeclaration : Visitor where
  name := "method_declaration"
  visit node :=
    match present? node.qualifiedName with
    | none => missing node "qualified name"
    | some qualified =>
        match present? node.declaringType with
        | none => missing node "declaring type"
        | some owner =>
            let fact : NodeFact := { label := .method, name := qualified }
            let named := fact.with "name" (.text (node.name.getD qualified))
            let owned := named.with "declaring_type" (.text owner)
            { facts :=
                [.node (withLocation owned node),
                  .edge { relation := .declares, source := owner, target := qualified }]
              outcome := .ok true }

/-- Emits the relationship from the method around a call to the method it runs.  A call
outside any method, or without a known target, gives nothing. -/
def methodInvocation : Visitor where
  name := "method_invocation"
  visit node :=
    match node.enclosingMethod, node.invocationTarget with
    | some caller, some target =>
        let fact : EdgeFact := { relation := .invokes, source := caller, target }
        let lined := if 0 < node.line then fact.with "line" (.ofNat node.line) else fact
        { facts := [.edge lined], outcome := .ok true }
    | _, _ => { outcome := .ok true }

/-! ## What the standard visitors make of a node -/

private theorem present?_some {text : String} (present : text ≠ "") :
    present? (some text) = some text := by
  have filled : text.isEmpty = false := by simpa using present
  rw [present?, filled]
  rfl

private theorem withLocation_key (fact : NodeFact) (node : Node) :
    (withLocation fact node).label = fact.label ∧ (withLocation fact node).name = fact.name := by
  unfold withLocation
  split <;> split <;> exact ⟨rfl, rfl⟩

/-- A type with a name gives a fact of that name, and relationships that start at it. -/
theorem visit_typeDeclaration {node : Node} {qualified : String}
    (named : node.qualifiedName = some qualified) (present : qualified ≠ "") :
    ∃ (fact : NodeFact) (edges : List EdgeFact), typeDeclaration.visit node =
        { facts := .node fact :: edges.map .edge, outcome := .ok true } ∧
      fact.label = .type ∧ fact.name = qualified ∧
      ∀ edge ∈ edges, edge.source = qualified ∧
        (edge.relation = .inherits ∨ edge.relation = .implements) := by
  let described : NodeFact := { label := .type, name := qualified }
  let fact := withLocation (described.with "name" (.text (node.name.getD qualified))) node
  let edge (superType : SuperType) : EdgeFact :=
    { relation := if superType.isInterface then .implements else .inherits
      source := qualified
      target := superType.name }
  have visited : typeDeclaration.visit node =
      { facts := .node fact :: node.superTypes.map (superTypeFact qualified)
        outcome := .ok true } := by
    simp only [typeDeclaration, named, present?_some present]
    rfl
  refine ⟨fact, node.superTypes.map edge, ?_, (withLocation_key ..).1, (withLocation_key ..).2, ?_⟩
  · rw [visited, List.map_map]
    rfl
  · intro made member
    obtain ⟨superType, -, same⟩ := List.mem_map.mp member
    subst same
    refine ⟨rfl, ?_⟩
    cases kind : superType.isInterface <;> simp [edge, kind]

/-- A method with a name and a type gives a fact of that name, and its declaration. -/
theorem visit_methodDeclaration {node : Node} {qualified owner : String}
    (named : node.qualifiedName = some qualified) (present : qualified ≠ "")
    (owned : node.declaringType = some owner) (ownerPresent : owner ≠ "") :
    ∃ fact : NodeFact, methodDeclaration.visit node =
        { facts :=
            [.node fact, .edge { relation := .declares, source := owner, target := qualified }]
          outcome := .ok true } ∧
      fact.label = .method ∧ fact.name = qualified := by
  let described : NodeFact := { label := .method, name := qualified }
  let known := described.with "name" (.text (node.name.getD qualified))
  refine ⟨withLocation (known.with "declaring_type" (.text owner)) node, ?_,
    (withLocation_key ..).1, (withLocation_key ..).2⟩
  simp only [methodDeclaration, named, present?_some present, owned, present?_some ownerPresent]
  rfl

/-- A call gives at most a relationship, and that starts at the method around the call. -/
theorem visit_methodInvocation (node : Node) :
    (methodInvocation.visit node).outcome = .ok true ∧
      ∀ fact ∈ (methodInvocation.visit node).facts, ∃ edge : EdgeFact, fact = .edge edge ∧
        edge.relation = .invokes ∧ node.enclosingMethod = some edge.source := by
  simp only [methodInvocation]
  split
  next caller target around _ =>
    refine ⟨rfl, fun fact member => ⟨_, List.mem_singleton.mp member, ?_⟩⟩
    split <;> exact ⟨rfl, around⟩
  next => exact ⟨rfl, fun fact member => nomatch member⟩

end Visitor

end CodeGraph
