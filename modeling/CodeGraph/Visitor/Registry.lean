import CodeGraph.Visitor

/-!
# Registries of visitors

A registry has at most one visitor for each kind of node.
-/

namespace CodeGraph

/-- The visitor of each kind that has one. -/
structure Registry where
  visitor? : Kind → Option Visitor

namespace Registry

/-- The registry without visitors. -/
def empty : Registry := ⟨fun _ => none⟩

instance : Inhabited Registry := ⟨empty⟩

/-- The registry with a visitor for a kind, in place of an earlier one. -/
def insert (registry : Registry) (kind : Kind) (visitor : Visitor) : Registry :=
  ⟨fun asked => if asked = kind then some visitor else registry.visitor? asked⟩

/-- The registry without a visitor for a kind. -/
def erase (registry : Registry) (kind : Kind) : Registry :=
  ⟨fun asked => if asked = kind then none else registry.visitor? asked⟩

def contains (registry : Registry) (kind : Kind) : Bool :=
  (registry.visitor? kind).isSome

/-- The kinds with a visitor, in the order of their codes. -/
def kinds (registry : Registry) : List Kind := Kind.all.filter registry.contains

def size (registry : Registry) : Nat := registry.kinds.length

/-- The registry as text: kinds and names of visitors. -/
def describe (registry : Registry) : String :=
  let entries := Kind.all.filterMap fun kind =>
    (registry.visitor? kind).map fun visitor =>
      Text.quoted kind.name ++ ": " ++ Text.quoted visitor.name
  "\x7b" ++ ", ".intercalate entries ++ "\x7d"

def standard : Registry :=
  [(Kind.typeDeclaration, Visitor.typeDeclaration),
    (.enumDeclaration, .typeDeclaration),
    (.annotationTypeDeclaration, .typeDeclaration),
    (.anonymousClassDeclaration, .typeDeclaration),
    (.methodDeclaration, .methodDeclaration),
    (.methodInvocation, .methodInvocation),
    (.superMethodInvocation, .methodInvocation),
    (.classInstanceCreation, .methodInvocation)].foldl
    (fun registry entry => registry.insert entry.1 entry.2) empty

end Registry

end CodeGraph
