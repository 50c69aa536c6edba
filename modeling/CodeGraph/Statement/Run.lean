import CodeGraph.Statement.Binding
import CodeGraph.Store

/-!
# Running statements

The clauses of a bound statement run in order against a store, with the variables that
the clauses before have bound.  A selecting clause that finds nothing ends the
statement.  A failure leaves what was done before it.
-/

namespace CodeGraph

inductive Meaning where
  | nodes (cells : List Nat)
  | edge (cell : Nat)
deriving DecidableEq, Repr

structure ChangeCounts where
  nodes : Nat := 0
  relationships : Nat := 0
  deleted : Nat := 0
deriving DecidableEq, Repr, Inhabited

def ChangeCounts.add (left right : ChangeCounts) : ChangeCounts :=
  ⟨left.nodes + right.nodes, left.relationships + right.relationships,
    left.deleted + right.deleted⟩

/-- The state between two clauses. -/
structure Execution where
  text : String
  store : Store
  meanings : OrderedMap Meaning := OrderedMap.empty
  counts : ChangeCounts := {}

/-- A step of a statement; on a failure, the state is what was reached before it. -/
abbrev Running := ExceptT Failure (StateM Execution)

namespace Running

def fault {α : Type} (reason : StatementFault) : Running α := do
  throw (.unsupportedStatement (← get).text reason)

/-- Binds a variable, if there is a name. -/
def bindName (name : Option String) (meaning : Meaning) : Running Unit :=
  match name with
  | some name =>
      modify fun run => { run with meanings := run.meanings.insert name meaning }
  | none => pure ()

def change (operation : Store → Nat × Store) : Running Nat :=
  modifyGet fun run =>
    let (cell, store) := operation run.store
    (cell, { run with store })

def count (counts : ChangeCounts) : Running Unit :=
  modify fun run => { run with counts := run.counts.add counts }

/-- Makes the node of a pattern that is not a bound variable. -/
def makeNode (making : Making) (node : BoundNode) : Running Nat := do
  match node.label with
  | none => fault .missingLabel
  | some label =>
      let cell ← change fun store =>
        match making with
        | .create => store.createNode label node.properties
        | .merge => store.mergeNode label node.properties
      count { nodes := 1 }
      bindName node.name (.nodes [cell])
      return cell

/-- The node of a pattern: what its variable denotes if that is bound, else a node that
is made. -/
def node (making : Making) (node : BoundNode) : Running Nat := do
  let meanings := (← get).meanings
  match node.name, node.name.bind meanings.find? with
  | some name, some meaning =>
      match meaning with
      | .nodes [cell] =>
          if node.properties.entries.isEmpty then return cell
          else fault (.notASingleNode name)
      | _ => fault (.notASingleNode name)
  | _, _ => makeNode making node

def path (making : Making) (source : BoundNode) (relation : BoundRelation)
    (target : BoundNode) : Running Unit := do
  let start ← node making source
  let finish ← node making target
  let cell ← change fun store =>
    match making with
    | .create => store.createEdge start finish relation.type relation.properties
    | .merge => store.mergeEdge start finish relation.type relation.properties
  count { relationships := 1 }
  bindName relation.name (.edge cell)

/-- Selects nodes; the answer is whether each pattern found some. -/
def select : List BoundNode → Running Bool
  | [] => return true
  | pattern :: patterns => do
      let found := (← get).store.matchNodes pattern.label pattern.properties
      if found.isEmpty then return false
      bindName pattern.name (.nodes found)
      select patterns

def changeStore (operation : Store → Store) : Running Unit :=
  modify fun run => { run with store := operation run.store }

/-- Sets properties of all that a variable denotes. -/
def set (name : String) (properties : Properties) : Running Unit := do
  match (← get).meanings.find? name with
  | some (.nodes cells) =>
      changeStore fun store =>
        cells.foldl (fun store cell => store.setNode cell properties) store
  | some (.edge cell) => changeStore fun store => store.setEdge cell properties
  | none => fault (.unboundVariable name)

/-- Deletes nodes one after another. -/
def deleteNodes (detach : Bool) : List Nat → Running Unit
  | [] => return ()
  | cell :: cells => do
      match (← get).store.deleteNode cell detach with
      | .error failure => throw failure
      | .ok store =>
          modify fun run => { run with store }
          count { deleted := 1 }
          deleteNodes detach cells

/-- Deletes all that the variables denote, and unbinds them. -/
def delete (detach : Bool) : List String → Running Unit
  | [] => return ()
  | name :: names => do
      let meaning := (← get).meanings.find? name
      modify fun run => { run with meanings := run.meanings.erase name }
      match meaning with
      | none => fault (.unboundVariable name)
      | some (.edge cell) =>
          changeStore fun store => store.deleteEdge cell
          count { deleted := 1 }
      | some (.nodes cells) => deleteNodes detach cells
      delete detach names

/-- Runs a clause; the answer is whether the statement goes on. -/
def clause : BoundClause → Running Bool
  | .node making pattern => do
      let _ ← node making pattern
      return true
  | .path making source relation target => do
      path making source relation target
      return true
  | .select patterns => select patterns
  | .set name properties => do
      set name properties
      return true
  | .delete names detach => do
      delete detach names
      return true

/-- Runs clauses in order, until one ends the statement. -/
def clauses : List BoundClause → Running Unit
  | [] => return ()
  | first :: rest => do
      if ← clause first then clauses rest

end Running

/-- Runs a bound statement against a store: the changes or the failure, and the store
that was reached. -/
def BoundStatement.run (statement : BoundStatement) (store : Store) :
    Except Failure ChangeCounts × Store :=
  let (outcome, reached) :=
    (Running.clauses statement.clauses).run.run { text := statement.text, store }
  (outcome.map fun _ => reached.counts, reached.store)

end CodeGraph
