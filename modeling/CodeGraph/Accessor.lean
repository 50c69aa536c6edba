import CodeGraph.Failure
import CodeGraph.Statement

/-!
# Accessors

An accessor runs batches of statements, each batch as one transaction.  It is known
here only by what a batch does to its state of type `σ`.
-/

namespace CodeGraph

structure Accessor (σ : Type) where
  execute : List Statement → σ → Except Failure Unit × σ

namespace Accessor

/-- The accessor that keeps the batches it has run, the newest first.  It fails, and does
not keep, the batches to which `fault` gives a failure. -/
def recording (fault : List Statement → Option Failure) : Accessor (List (List Statement)) where
  execute batch log :=
    match fault batch with
    | some failure => (.error failure, log)
    | none => (.ok (), batch :: log)

end Accessor

end CodeGraph
