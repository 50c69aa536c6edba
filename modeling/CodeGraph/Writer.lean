import CodeGraph.Accessor

/-!
# Writers

A writer collects statements and hands them to an accessor in batches.  A batch that
fails is not handed over again.
-/

namespace CodeGraph

/-- The statements that wait, and what has been executed. -/
structure Writer where
  /-- A batch goes out as soon as it has this many statements; 0 waits for a flush. -/
  batchSize : Nat
  /-- The waiting statements, the newest first. -/
  waiting : List Statement := []
  /-- Statements executed so far. -/
  statements : Nat := 0
  /-- Batches executed so far. -/
  batches : Nat := 0

namespace Writer

def pending (writer : Writer) : List Statement := writer.waiting.reverse

/-- Writing to an accessor with a state of type `σ`: a failure keeps the state. -/
abbrev Writing (σ : Type) := ExceptT Failure (StateM (Writer × σ))

variable {σ : Type}

def send (accessor : Accessor σ) (batch : List Statement) : Writing σ Unit := do
  let (writer, state) ← get
  match accessor.execute batch state with
  | (.error failure, state) =>
      set (writer, state)
      throw failure
  | (.ok (), state) =>
      set
        ({ writer with
            statements := writer.statements + batch.length
            batches := writer.batches + 1 },
          state)

/-- Sends what waits as one batch, unless nothing waits. -/
def flush (accessor : Accessor σ) : Writing σ Unit := do
  let (writer, state) ← get
  if writer.waiting.isEmpty then return ()
  set ({ writer with waiting := [] }, state)
  send accessor writer.pending

/-- Sends what waits, and then a statement as a batch of its own. -/
def executeNow (accessor : Accessor σ) (statement : Statement) : Writing σ Unit := do
  flush accessor
  send accessor [statement]

/-- Lets a statement wait, and sends what waits once the batch is full. -/
def write (accessor : Accessor σ) (statement : Statement) : Writing σ Unit := do
  modify fun (writer, state) =>
    ({ writer with waiting := statement :: writer.waiting }, state)
  let (writer, _) ← get
  if 0 < writer.batchSize && writer.batchSize ≤ writer.waiting.length then
    flush accessor

end Writer

end CodeGraph
