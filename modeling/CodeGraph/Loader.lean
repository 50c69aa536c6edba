import CodeGraph.Filter
import CodeGraph.Writer
import Std.Data.HashSet
import Std.Data.HashMap

/-!
# Loading facts into a graph

A loader runs the statements that are to come before everything else, one batch each,
and then turns facts into statements: a node if its name is admitted, a relationship
if both its names are, and each fact only the first time that its key comes.
-/

namespace CodeGraph

structure RunStats where
  filesParsed : Nat := 0
  filesFailed : Nat := 0
  visitorFaults : Nat := 0
  preStatements : Nat := 0
  nodesWritten : Nat := 0
  nodesBlocked : Nat := 0
  edgesWritten : Nat := 0
  edgesDropped : Nat := 0
  duplicatesSkipped : Nat := 0
  statements : Nat := 0
  batches : Nat := 0
deriving DecidableEq, Repr, Inhabited

def RunStats.toJson (stats : RunStats) : Json :=
  Json.ofCounts
    [("files_parsed", stats.filesParsed), ("files_failed", stats.filesFailed),
      ("visitor_faults", stats.visitorFaults), ("pre_statements", stats.preStatements),
      ("nodes_written", stats.nodesWritten), ("nodes_blocked", stats.nodesBlocked),
      ("edges_written", stats.edgesWritten), ("edges_dropped", stats.edgesDropped),
      ("duplicates_skipped", stats.duplicatesSkipped), ("statements", stats.statements),
      ("batches", stats.batches)]

inductive FactKey where
  | node (label : NodeLabel) (name : String)
  | edge (relation : Relation) (source target : String)
deriving DecidableEq, Repr, Hashable

def Fact.key : Fact → FactKey
  | .node fact => .node fact.label fact.name
  | .edge fact => .edge fact.relation fact.source fact.target

/-- The state of loading: decisions taken so far, keys seen, and counters. -/
structure Loader where
  filter : Filter
  /-- The decision about each name asked for so far. -/
  decisions : Std.HashMap String Bool := ∅
  seen : Std.HashSet FactKey := ∅
  stats : RunStats := {}

namespace Loader

/-- Loading through an accessor with a state of type `σ`. -/
abbrev Loading (σ : Type) := ExceptT Failure (StateM (Loader × Writer × σ))

variable {σ : Type}

def writing (action : Writer.Writing σ Unit) : Loading σ Unit := do
  let (loader, state) ← get
  let (outcome, state) := action.run.run state
  set (loader, state)
  match outcome with
  | .ok () => return ()
  | .error failure => throw failure

def count (change : RunStats → RunStats) : Loading σ Unit :=
  modify fun (loader, state) => ({ loader with stats := change loader.stats }, state)

/-- Is the name admitted?  The filter is asked once per name. -/
def admits (name : String) : Loading σ Bool :=
  modifyGet fun (loader, state) =>
    match loader.decisions[name]? with
    | some decision => (decision, loader, state)
    | none =>
        let decision := loader.filter.admits name
        (decision, { loader with decisions := loader.decisions.insert name decision }, state)

/-- Takes note of a key; the answer is whether it is new. -/
def isNew (key : FactKey) : Loading σ Bool :=
  modifyGet fun (loader, state) =>
    if loader.seen.contains key then (false, loader, state)
    else (true, { loader with seen := loader.seen.insert key }, state)

/-- Runs the statements that come before every fact, in order; the first failure ends
the run. -/
def runFirst (accessor : Accessor σ) : List String → Loading σ Unit
  | [] => return ()
  | text :: texts => do
      tryCatch (writing (Writer.executeNow accessor { text }))
        fun failure => throw (.preExecution text failure)
      runFirst accessor texts

def start (accessor : Accessor σ) (preStatements : List String) : Loading σ Unit := do
  runFirst accessor preStatements
  count fun stats => { stats with preStatements := preStatements.length }

/-- Writes an admitted fact, unless its key has come before. -/
def writeOnce (accessor : Accessor σ) (fact : Fact) (written : RunStats → RunStats) :
    Loading σ Unit := do
  if ← isNew fact.key then
    writing (Writer.write accessor (.ofFact fact))
    count written
  else
    count fun stats => { stats with duplicatesSkipped := stats.duplicatesSkipped + 1 }

def accept (accessor : Accessor σ) : Fact → Loading σ Unit
  | .node fact => do
      if ← admits fact.name then
        writeOnce accessor (.node fact)
          fun stats => { stats with nodesWritten := stats.nodesWritten + 1 }
      else count fun stats => { stats with nodesBlocked := stats.nodesBlocked + 1 }
  | .edge fact => do
      let sourceAdmitted ← admits fact.source
      let targetAdmitted ← admits fact.target
      if sourceAdmitted && targetAdmitted then
        writeOnce accessor (.edge fact)
          fun stats => { stats with edgesWritten := stats.edgesWritten + 1 }
      else count fun stats => { stats with edgesDropped := stats.edgesDropped + 1 }

def wasAdmitted (loader : Loader) (name : String) : Bool :=
  loader.decisions[name]?.getD false

def finish (accessor : Accessor σ) : Loading σ RunStats := do
  writing (Writer.flush accessor)
  let (loader, writer, _) ← get
  return { loader.stats with statements := writer.statements, batches := writer.batches }

/-- Takes in several facts. -/
def acceptAll (accessor : Accessor σ) (facts : List Fact) : Loading σ Unit :=
  facts.forM (accept accessor)

/-- Starts, takes in the facts and finishes, over an accessor in a given state. -/
def load (accessor : Accessor σ) (filter : Filter) (batchSize : Nat)
    (preStatements : List String) (facts : List Fact) (state : σ) :
    Except Failure RunStats × σ :=
  let action : Loading σ RunStats := do
    start accessor preStatements
    acceptAll accessor facts
    finish accessor
  let (outcome, _, _, state) :=
    action.run.run ({ filter }, { batchSize }, state)
  (outcome, state)

end Loader

end CodeGraph
