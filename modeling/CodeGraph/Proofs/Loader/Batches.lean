import CodeGraph.Writer
import CodeGraph.Proofs.Sequencing

/-!
# The batches of a writer

A writer cuts the statements that it is given into batches in order, by the batch size
alone, and the accessor runs these batches up to the first that fails.
-/

namespace CodeGraph

variable {σ : Type}

/-- Runs batches in turn up to the first that fails. -/
def Accessor.executeAll (accessor : Accessor σ) :
    List (List Statement) → σ → Except Failure Unit × σ
  | [], state => (.ok (), state)
  | batch :: batches, state =>
      match accessor.execute batch state with
      | (.error failure, reached) => (.error failure, reached)
      | (.ok (), reached) => accessor.executeAll batches reached

/-- The batch of a statement that comes before every fact. -/
def Statement.alone (text : String) : List Statement := [{ text }]

/-- Runs the statements that come before everything else, each as a batch of its own, up to
the first that fails.  The failure tells which one it was. -/
def Accessor.executeFirst (accessor : Accessor σ) :
    List String → σ → Except Failure Unit × σ
  | [], state => (.ok (), state)
  | text :: texts, state =>
      match accessor.execute (Statement.alone text) state with
      | (.error failure, reached) => (.error (.preExecution text failure), reached)
      | (.ok (), reached) => accessor.executeFirst texts reached

namespace Writer

/-- The batches that statements are cut into after those that wait. -/
def portions (size : Nat) (waiting : List Statement) :
    List Statement → List (List Statement)
  | [] => if waiting.isEmpty then [] else [waiting]
  | statement :: statements =>
      let full := waiting ++ [statement]
      if 0 < size && size ≤ full.length then full :: portions size [] statements
      else portions size full statements

/-- Cutting into batches neither loses nor repeats nor moves a statement. -/
theorem flatten_portions (size : Nat) (waiting statements : List Statement) :
    (portions size waiting statements).flatten = waiting ++ statements := by
  induction statements generalizing waiting with
  | nil =>
      cases waiting <;> simp [portions]
  | cons statement statements induction =>
      simp only [portions]
      split
      · simp [induction]
      · simp [induction]

/-- Statements cut in order into batches: all batches but the last are of the full size,
and the last is not empty.  Without a size there is one batch at most. -/
structure Cuts (size : Nat) (statements : List Statement)
    (batches : List (List Statement)) : Prop where
  flatten : batches.flatten = statements
  nonempty : ∀ batch ∈ batches, batch ≠ []
  full : 0 < size → ∀ batch ∈ batches.dropLast, batch.length = size
  bounded : 0 < size → ∀ batch ∈ batches, batch.length ≤ size
  whole : size = 0 → batches.length ≤ 1

theorem cuts_portions (size : Nat) (waiting statements : List Statement)
    (room : 0 < size → waiting.length < size) :
    Cuts size (waiting ++ statements) (portions size waiting statements) := by
  induction statements generalizing waiting with
  | nil =>
      have flatten := flatten_portions size waiting []
      cases waiting with
      | nil =>
          exact ⟨flatten, by simp [portions], by simp [portions], by simp [portions],
            by simp [portions]⟩
      | cons first rest =>
          refine ⟨flatten, by simp [portions], by simp [portions], ?_, by simp [portions]⟩
          intro sized batch member
          rw [List.mem_singleton.mp member]
          exact Nat.le_of_lt (room sized)
  | cons statement statements induction =>
      have flatten := flatten_portions size waiting (statement :: statements)
      simp only [portions] at flatten ⊢
      cases reached : 0 < size && size ≤ (waiting ++ [statement]).length with
      | false =>
          simp only [Bool.false_eq_true, if_false]
          rw [List.append_cons]
          apply induction
          intro sized
          simpa [sized] using reached
      | true =>
          simp only [reached, if_true] at flatten ⊢
          simp only [Bool.and_eq_true, decide_eq_true_eq] at reached
          have filled : (waiting ++ [statement]).length = size := by
            have before := room reached.1
            rw [List.length_append, List.length_singleton] at reached ⊢
            omega
          have rest := induction [] fun sized => sized
          refine ⟨flatten, ?_, ?_, ?_, fun none => absurd reached.1 (none ▸ Nat.lt_irrefl 0)⟩
          · intro batch member
            rcases List.mem_cons.mp member with here | later
            · simp [here]
            · exact rest.nonempty batch later
          · intro sized batch member
            cases others : portions size [] statements with
            | nil => simp [others] at member
            | cons second others' =>
                rw [others, List.dropLast_cons_cons] at member
                rcases List.mem_cons.mp member with here | later
                · exact here ▸ filled
                · exact rest.full sized batch (others ▸ later)
          · intro sized batch member
            rcases List.mem_cons.mp member with here | later
            · exact Nat.le_of_eq (here ▸ filled)
            · exact rest.bounded sized batch later

/-! ## Steps of the writer -/

theorem run_send (accessor : Accessor σ) (batch : List Statement) (writer : Writer) (state : σ) :
    (send accessor batch).run.run (writer, state) =
      match accessor.execute batch state with
      | (.error failure, reached) => (.error failure, writer, reached)
      | (.ok (), reached) =>
          (.ok (),
            { writer with
              statements := writer.statements + batch.length
              batches := writer.batches + 1 },
            reached) := by
  unfold send
  rw [run_bind]
  change (match accessor.execute batch state with
    | (.error failure, reached) => _
    | (.ok (), reached) => _ : Writing σ Unit).run.run _ = _
  rcases accessor.execute batch state with ⟨outcome, reached⟩
  cases outcome <;> rfl

theorem run_flush (accessor : Accessor σ) (writer : Writer) (state : σ) :
    (flush accessor).run.run (writer, state) =
      if writer.waiting.isEmpty then (.ok (), writer, state)
      else
        match accessor.execute writer.pending state with
        | (.error failure, reached) => (.error failure, { writer with waiting := [] }, reached)
        | (.ok (), reached) =>
            (.ok (),
              { writer with
                waiting := []
                statements := writer.statements + writer.pending.length
                batches := writer.batches + 1 },
              reached) := by
  unfold flush
  rw [run_bind]
  change (if writer.waiting.isEmpty then _ else _ : Writing σ Unit).run.run (writer, state) = _
  split
  · rfl
  · exact run_send accessor writer.pending { writer with waiting := [] } state

theorem run_write (accessor : Accessor σ) (statement : Statement) (writer : Writer)
    (state : σ) :
    (write accessor statement).run.run (writer, state) =
      let full := { writer with waiting := statement :: writer.waiting }
      if 0 < full.batchSize && full.batchSize ≤ full.waiting.length then
        (flush accessor).run.run (full, state)
      else (.ok (), full, state) := by
  unfold write
  rw [run_bind]
  change (get >>= fun _ => _ : Writing σ Unit).run.run
    ({ writer with waiting := statement :: writer.waiting }, state) = _
  rw [run_bind]
  change (if 0 < writer.batchSize && writer.batchSize ≤ (statement :: writer.waiting).length then
    flush accessor else pure () : Writing σ Unit).run.run _ = _
  dsimp only
  split
  · rfl
  · rfl

/-! ## Writing several statements -/

/-- Writes statements in turn, and sends what waits at the end. -/
def writeAll (accessor : Accessor σ) : List Statement → Writing σ Unit
  | [] => flush accessor
  | statement :: statements => do
      write accessor statement
      writeAll accessor statements

/-- What writing has come to: a failure or the counters of the writer, and the state. -/
def counted (ended : Except Failure Unit × Writer × σ) : Except Failure (Nat × Nat) × σ :=
  (ended.1.map fun _ => (ended.2.1.statements, ended.2.1.batches), ended.2.2)

theorem run_writeAll (accessor : Accessor σ) (statements : List Statement) (writer : Writer)
    (state : σ) :
    counted ((writeAll accessor statements).run.run (writer, state)) =
      Prod.map
        (Except.map fun _ =>
          (writer.statements + (writer.waiting.length + statements.length),
            writer.batches + (portions writer.batchSize writer.pending statements).length))
        id
        (accessor.executeAll (portions writer.batchSize writer.pending statements) state) := by
  induction statements generalizing writer state with
  | nil =>
      rw [writeAll, run_flush, portions]
      by_cases nothing : writer.waiting = []
      · simp [nothing, pending, counted, Except.map, Accessor.executeAll]
      · simp only [List.isEmpty_iff, nothing, pending, List.reverse_eq_nil_iff, if_false,
          Accessor.executeAll]
        rcases accessor.execute writer.waiting.reverse state with ⟨outcome, reached⟩
        cases outcome with
        | error failure => rfl
          | ok done => simp [counted, Except.map]
  | cons statement statements induction =>
      have full : (statement :: writer.waiting).reverse = writer.pending ++ [statement] :=
        List.reverse_cons
      have sizes : (statement :: writer.waiting).length =
          (writer.pending ++ [statement]).length := by
        rw [← full, List.length_reverse]
      rw [writeAll, run_bind, run_write, portions]
      dsimp only
      rw [sizes]
      cases reached : 0 < writer.batchSize &&
        writer.batchSize ≤ (writer.pending ++ [statement]).length with
      | true =>
          rw [if_pos rfl, if_pos rfl, run_flush]
          simp only [List.isEmpty_cons, Bool.false_eq_true, if_false, Accessor.executeAll]
          rw [show Writer.pending { writer with waiting := statement :: writer.waiting } =
            writer.pending ++ [statement] from full]
          rcases accessor.execute (writer.pending ++ [statement]) state with ⟨outcome, after⟩
          cases outcome with
          | error failure => rfl
          | ok done =>
              have statementsSent :
                  writer.statements + (writer.pending ++ [statement]).length +
                      (0 + statements.length) =
                    writer.statements +
                      (writer.waiting.length + (statement :: statements).length) := by
                simp only [← sizes, List.length_cons]
                omega
              have batchesSent :
                  writer.batches + 1 + (portions writer.batchSize [] statements).length =
                    writer.batches + ((writer.pending ++ [statement]) ::
                      portions writer.batchSize [] statements).length := by
                rw [List.length_cons]
                omega
              rw [← statementsSent, ← batchesSent]
              exact induction _ after
      | false =>
          rw [if_neg Bool.false_ne_true, if_neg Bool.false_ne_true, ← full]
          have statementsLeft : (statement :: writer.waiting).length + statements.length =
              writer.waiting.length + (statement :: statements).length := by
            simp only [List.length_cons]
            omega
          rw [← statementsLeft]
          exact induction _ state

end Writer

end CodeGraph
