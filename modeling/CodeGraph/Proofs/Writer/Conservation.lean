import CodeGraph.Proofs.Loader.Calls

/-!
# What a writer does with statements

A writer neither loses nor repeats nor moves a statement, whichever batches fail: what it has
handed over and what still waits are, in order, the statements that it was given.  Only an
immediate statement is given up, if what waits before it cannot be sent.
-/

namespace CodeGraph

variable {σ : Type}

namespace Writer

/-! ## Sending -/

/-- The writer once a batch has ended: only a batch that was executed counts. -/
def credited (writer : Writer) (batch : List Statement) : Except Failure Unit → Writer
  | .ok () =>
      { writer with
        statements := writer.statements + batch.length
        batches := writer.batches + 1 }
  | .error _ => writer

/-- What sending a batch leads to. -/
def sent (accessor : Accessor σ) (batch : List Statement) (writer : Writer) (state : σ) :
    Except Failure Unit × Writer × σ :=
  let (outcome, reached) := accessor.execute batch state
  (outcome, writer.credited batch outcome, reached)

theorem run_send_eq_sent (accessor : Accessor σ) (batch : List Statement) (writer : Writer)
    (state : σ) :
    (send accessor batch).run.run (writer, state) = sent accessor batch writer state := by
  rw [run_send, sent]
  rcases accessor.execute batch state with ⟨outcome, reached⟩
  cases outcome <;> rfl

theorem run_flush_eq_sent (accessor : Accessor σ) (writer : Writer) (state : σ) :
    (flush accessor).run.run (writer, state) =
      if writer.waiting.isEmpty then (.ok (), writer, state)
      else sent accessor writer.pending { writer with waiting := [] } state := by
  rw [run_flush, sent]
  split
  · rfl
  · rcases accessor.execute writer.pending state with ⟨outcome, reached⟩
    cases outcome <;> rfl

/-! ## What is conserved -/

/-- Less waits than would fill a batch. -/
def HasRoom (writer : Writer) : Prop :=
  0 < writer.batchSize → writer.pending.length < writer.batchSize

/-- On the way from one writer to another statements were given and calls were made. What waited
and what was given is, in order, what was handed over and what waits now, and the counters have
grown by what was executed. -/
structure Conserves (before : Writer) (given : List Statement) (calls : List Call)
    (after : Writer) : Prop where
  flatten : (calls.map Call.batch).flatten ++ after.pending = before.pending ++ given
  nonempty : ∀ call ∈ calls, call.batch ≠ []
  statements : after.statements = before.statements + (Call.executed calls).flatten.length
  batches : after.batches = before.batches + (Call.executed calls).length
  batchSize : after.batchSize = before.batchSize
  room : before.HasRoom → after.HasRoom

namespace Conserves

variable {first second third : Writer} {given more : List Statement} {calls later : List Call}

theorem refl (writer : Writer) : Conserves writer [] [] writer := by
  constructor <;> simp [Call.executed]

theorem trans (start : Conserves first given calls second)
    (rest : Conserves second more later third) :
    Conserves first (given ++ more) (calls ++ later) third := by
  have executed : Call.executed (calls ++ later) =
      Call.executed calls ++ Call.executed later := by
    simp [Call.executed]
  constructor
  · calc ((calls ++ later).map Call.batch).flatten ++ third.pending
        = (calls.map Call.batch).flatten ++
            ((later.map Call.batch).flatten ++ third.pending) := by simp
      _ = ((calls.map Call.batch).flatten ++ second.pending) ++ more := by
          rw [rest.flatten, List.append_assoc]
      _ = first.pending ++ (given ++ more) := by rw [start.flatten, List.append_assoc]
  · intro call member
    rcases List.mem_append.mp member with early | late
    · exact start.nonempty call early
    · exact rest.nonempty call late
  · rw [rest.statements, start.statements, executed, List.flatten_append, List.length_append]
    exact Nat.add_assoc _ _ _
  · rw [rest.batches, start.batches, executed, List.length_append]
    exact Nat.add_assoc _ _ _
  · exact rest.batchSize.trans start.batchSize
  · intro room
    exact rest.room (start.room room)

/-- Sending one batch that is not empty leaves a writer with which nothing waits. -/
theorem sent {before emptied : Writer} {batch : List Statement} (outcome : Except Failure Unit)
    (taken : batch = before.pending ++ given) (nonempty : batch ≠ [])
    (left : emptied = { before with waiting := [] }) :
    Conserves before given [⟨batch, outcome⟩] (emptied.credited batch outcome) := by
  subst left
  have waiting : Writer.pending (credited { before with waiting := [] } batch outcome) = [] := by
    cases outcome <;> rfl
  constructor
  · rw [waiting, ← taken]
    simp
  · simpa using nonempty
  · cases outcome with
    | error failure => rfl
    | ok done =>
        have one : Call.executed [⟨batch, .ok done⟩] = [batch] := rfl
        simp [one, credited]
  · cases outcome <;> rfl
  · cases outcome <;> rfl
  · intro room sized
    rw [waiting]
    exact sized

end Conserves

/-! ## Single requests -/

theorem flush_conserves (accessor : Accessor σ) (writer : Writer) (state : σ)
    (calls : List Call) :
    let ended := (flush accessor).run.run (writer, state)
    ∃ new, (flush accessor.watched).run.run (writer, state, calls) =
        (ended.1, ended.2.1, ended.2.2, calls ++ new) ∧
      Conserves writer [] new ended.2.1 ∧ ended.2.1.waiting = [] ∧
      (new = [] ∧ ended.1 = .ok () ∨ new = [⟨writer.pending, ended.1⟩]) := by
  dsimp only
  rw [run_flush_eq_sent, run_flush_eq_sent]
  by_cases nothing : writer.waiting = []
  · rw [if_pos (List.isEmpty_iff.mpr nothing), if_pos (List.isEmpty_iff.mpr nothing)]
    exact ⟨[], by rw [List.append_nil], .refl writer, nothing, .inl ⟨rfl, rfl⟩⟩
  · have some : ¬writer.waiting.isEmpty = true := by simpa using nothing
    rw [if_neg some, if_neg some]
    refine ⟨_, rfl, ?_, ?_, .inr rfl⟩
    · apply Conserves.sent
      · exact (List.append_nil _).symm
      · simpa [pending] using nothing
      · rfl
    · unfold sent credited
      rcases accessor.execute writer.pending state with ⟨outcome, reached⟩
      cases outcome <;> rfl

/-- A statement that is written waits, or is the last of a full batch that is handed over. -/
theorem write_conserves (accessor : Accessor σ) (statement : Statement) (writer : Writer)
    (state : σ) (calls : List Call) :
    let ended := (write accessor statement).run.run (writer, state)
    ∃ new, (write accessor.watched statement).run.run (writer, state, calls) =
        (ended.1, ended.2.1, ended.2.2, calls ++ new) ∧
      Conserves writer [statement] new ended.2.1 ∧
      (new = [] ∧ ended.1 = .ok () ∨
        new = [⟨writer.pending ++ [statement], ended.1⟩] ∧ 0 < writer.batchSize ∧
          writer.batchSize ≤ (writer.pending ++ [statement]).length) := by
  let full := { writer with waiting := statement :: writer.waiting }
  have waits : full.pending = writer.pending ++ [statement] := List.reverse_cons
  have size : (statement :: writer.waiting).length = (writer.pending ++ [statement]).length := by
    simp [pending]
  dsimp only
  rw [run_write, run_write]
  dsimp only
  rw [size]
  cases filled : 0 < writer.batchSize &&
    writer.batchSize ≤ (writer.pending ++ [statement]).length with
  | false =>
      rw [if_neg Bool.false_ne_true, if_neg Bool.false_ne_true]
      refine ⟨[], by rw [List.append_nil], ?_, .inl ⟨rfl, rfl⟩⟩
      constructor
      · simpa using waits
      · simp
      · rfl
      · rfl
      · rfl
      · intro room sized
        have short : ¬writer.batchSize ≤ (writer.pending ++ [statement]).length := by
          have positive : 0 < writer.batchSize := sized
          simpa [positive] using filled
        rw [← waits] at short
        exact Nat.lt_of_not_le short
  | true =>
      rw [if_pos rfl, if_pos rfl, run_flush_eq_sent, run_flush_eq_sent, if_neg (by simp),
        if_neg (by simp)]
      simp only [Bool.and_eq_true, decide_eq_true_eq] at filled
      have conserves (outcome : Except Failure Unit) :
          Conserves writer [statement] [⟨full.pending, outcome⟩]
            (credited { full with waiting := [] } full.pending outcome) := by
        apply Conserves.sent
        · exact waits
        · simp [waits]
        · rfl
      refine ⟨_, rfl, conserves _, .inr ⟨?_, filled⟩⟩
      rw [← waits]
      rfl

/-- A call of a writer. -/
inductive Request where
  | write (statement : Statement)
  | executeNow (statement : Statement)
  | flush

namespace Request

def perform (accessor : Accessor σ) : Request → Writing σ Unit
  | write statement => Writer.write accessor statement
  | executeNow statement => Writer.executeNow accessor statement
  | flush => Writer.flush accessor

/-- The statement that a request gives to the writer, if any.  An immediate statement is given
up when what waits before it cannot be sent. -/
def given (accessor : Accessor σ) (reached : Writer × σ) : Request → List Statement
  | write statement => [statement]
  | executeNow statement =>
      match ((Writer.flush accessor).run.run reached).1 with
      | .ok () => [statement]
      | .error _ => []
  | flush => []

theorem conserves (request : Request) (accessor : Accessor σ) (writer : Writer) (state : σ)
    (calls : List Call) :
    let ended := (request.perform accessor).run.run (writer, state)
    ∃ new, (request.perform accessor.watched).run.run (writer, state, calls) =
        (ended.1, ended.2.1, ended.2.2, calls ++ new) ∧
      Conserves writer (request.given accessor (writer, state)) new ended.2.1 := by
  cases request with
  | write statement =>
      obtain ⟨new, watching, conserves, -⟩ :=
        write_conserves accessor statement writer state calls
      exact ⟨new, watching, conserves⟩
  | flush =>
      obtain ⟨new, watching, conserves, -⟩ := flush_conserves accessor writer state calls
      exact ⟨new, watching, conserves⟩
  | executeNow statement =>
      obtain ⟨new, watching, conserves, nothing, -⟩ :=
        flush_conserves accessor writer state calls
      dsimp only [perform, given, Writer.executeNow]
      rw [run_bind, run_bind, watching]
      rcases flushed : (Writer.flush accessor).run.run (writer, state) with
        ⟨outcome, between, reached⟩
      rw [flushed] at conserves nothing
      cases outcome with
      | error failure => exact ⟨new, rfl, conserves⟩
      | ok done =>
          dsimp only
          rw [run_send_eq_sent, run_send_eq_sent]
          let call : Call := ⟨[statement], (accessor.execute [statement] reached).1⟩
          refine ⟨new ++ [call], ?_, ?_⟩
          · rw [← List.append_assoc]
            rfl
          · have empty : between = { between with waiting := [] } := by
              rw [← nothing]
            have taken : [statement] = between.pending ++ [statement] := by
              rw [pending, nothing]
              rfl
            exact conserves.trans (Conserves.sent call.outcome taken (by simp) empty)

end Request

/-! ## Sequences of requests -/

/-- Performs requests in turn.  Whether one fails does not matter to the next. -/
def performAll (accessor : Accessor σ) : List Request → Writer × σ → Writer × σ
  | [], reached => reached
  | request :: requests, reached =>
      performAll accessor requests ((request.perform accessor).run.run reached).2

/-- The statements that requests give to the writer, in order. -/
def given (accessor : Accessor σ) : List Request → Writer × σ → List Statement
  | [], _ => []
  | request :: requests, reached =>
      request.given accessor reached ++
        given accessor requests ((request.perform accessor).run.run reached).2

theorem performAll_conserves (accessor : Accessor σ) (requests : List Request)
    (writer : Writer) (state : σ) (calls : List Call) :
    let reached := performAll accessor requests (writer, state)
    ∃ new, performAll accessor.watched requests (writer, state, calls) =
        (reached.1, reached.2, calls ++ new) ∧
      Conserves writer (given accessor requests (writer, state)) new reached.1 := by
  induction requests generalizing writer state calls with
  | nil => exact ⟨[], by rw [List.append_nil]; rfl, .refl writer⟩
  | cons request requests induction =>
      obtain ⟨first, watching, start⟩ := request.conserves accessor writer state calls
      dsimp only [performAll, given]
      rw [watching]
      rcases performed : (request.perform accessor).run.run (writer, state) with
        ⟨outcome, between, reached⟩
      rw [performed] at start
      obtain ⟨later, rest, conserves⟩ := induction between reached (calls ++ first)
      refine ⟨first ++ later, ?_, start.trans conserves⟩
      rw [← List.append_assoc]
      exact rest

/-- Whichever batches fail, the batches that a new writer has handed over and the statements
that wait with it are, in order, the statements that it was given, each once.  The batches are
not empty, the counters tell what was executed, and less waits than would fill a batch. -/
theorem performAll_exact (accessor : Accessor σ) (batchSize : Nat) (requests : List Request)
    (state : σ) :
    let reached := performAll accessor requests ({ batchSize }, state)
    ∃ calls,
      performAll accessor.watched requests ({ batchSize }, state, []) =
        (reached.1, reached.2, calls) ∧
      (calls.map Call.batch).flatten ++ reached.1.pending =
        given accessor requests ({ batchSize }, state) ∧
      (∀ call ∈ calls, call.batch ≠ []) ∧
      reached.1.statements = (Call.executed calls).flatten.length ∧
      reached.1.batches = (Call.executed calls).length ∧
      (0 < batchSize → reached.1.pending.length < batchSize) := by
  intro reached
  obtain ⟨calls, watching, conserves⟩ :=
    performAll_conserves accessor requests { batchSize } state []
  have room : reached.1.HasRoom := conserves.room id
  rw [HasRoom, conserves.batchSize] at room
  exact ⟨calls, watching, conserves.flatten, conserves.nonempty,
    conserves.statements.trans (Nat.zero_add _), conserves.batches.trans (Nat.zero_add _), room⟩

/-- What waits fails twice: before an immediate statement, which is given up, and in a full
batch. -/
theorem performAll_exact_failing :
    let accessor := Accessor.recording fun batch =>
      if batch.any (·.text == "bad") then some .transport else none
    let statement (text : String) : Statement := { text }
    let requests : List Request :=
      [.write (statement "bad"), .executeNow (statement "lost"), .write (statement "bad"),
        .write (statement "a"), .executeNow (statement "b"), .write (statement "c")]
    let calls := (performAll accessor.watched requests ({ batchSize := 2 }, [], [])).2.2
    (calls.map Call.batch).flatten ++ [statement "c"] =
      [statement "bad", statement "bad", statement "a", statement "b", statement "c"] ∧
    (Call.executed calls).length = 1 ∧
    0 < 2 ∧ (performAll accessor requests ({ batchSize := 2 }, [])).1.pending.length < 2 := by
  intro accessor statement requests calls
  obtain ⟨found, watching, flatten, -, -, batches, room⟩ :=
    performAll_exact accessor 2 requests []
  have same : calls = found := congrArg (fun reached => reached.2.2) watching
  rw [same]
  exact ⟨flatten, batches.symm, by decide, room (by decide)⟩

end Writer

end CodeGraph
