import CodeGraph.Proofs.Loader.Acceptance

/-!
# What reaches an accessor

A watched accessor keeps a record of every batch that is handed to it, and of how the batch
ended.  A run hands over a sequence of batches that its settings and its facts determine, up
to the first that fails.
-/

namespace CodeGraph

variable {σ : Type}

/-- A batch that was handed to an accessor, and how it ended. -/
structure Call where
  batch : List Statement
  outcome : Except Failure Unit

namespace Call

/-- The call of a batch that was executed. -/
def passed (batch : List Statement) : Call := ⟨batch, .ok ()⟩

/-- The call of a batch that failed. -/
def failed (batch : List Statement) (failure : Failure) : Call := ⟨batch, .error failure⟩

def succeeded (call : Call) : Bool := call.outcome.isOk

/-- The batches that were executed. -/
def executed (calls : List Call) : List (List Statement) :=
  (calls.filter succeeded).map batch

@[simp] theorem executed_map_passed (batches : List (List Statement)) :
    executed (batches.map passed) = batches := by
  induction batches with
  | nil => rfl
  | cons batch batches induction => exact congrArg (batch :: ·) induction

@[simp] theorem executed_passed_append (batches : List (List Statement)) (calls : List Call) :
    executed (batches.map passed ++ calls) = batches ++ executed calls := by
  rw [executed, List.filter_append, List.map_append]
  exact congrArg (· ++ executed calls) (executed_map_passed batches)

@[simp] theorem executed_failed (batch : List Statement) (failure : Failure) :
    executed [failed batch failure] = [] := rfl

@[simp] theorem map_batch_map_passed (batches : List (List Statement)) :
    (batches.map passed).map batch = batches := by
  rw [List.map_map]
  exact List.map_id batches

end Call

namespace Accessor

/-- The accessor with a record of its calls. -/
def watched (accessor : Accessor σ) : Accessor (σ × List Call) where
  execute batch state :=
    let (outcome, reached) := accessor.execute batch state.1
    (outcome, reached, state.2 ++ [⟨batch, outcome⟩])

theorem execute_watched (accessor : Accessor σ) (batch : List Statement) (state : σ)
    (calls : List Call) :
    accessor.watched.execute batch (state, calls) =
      ((accessor.execute batch state).1, (accessor.execute batch state).2,
        calls ++ [⟨batch, (accessor.execute batch state).1⟩]) := rfl

/-- In some state, the accessor executes the batch. -/
def Passes (accessor : Accessor σ) (batch : List Statement) : Prop :=
  ∃ state, (accessor.execute batch state).1 = .ok ()

/-- In some state, the batch fails. -/
def Fails (accessor : Accessor σ) (batch : List Statement) (failure : Failure) : Prop :=
  ∃ state, (accessor.execute batch state).1 = .error failure

/-- How batches are handed over: all are executed, or the first that fails is the last. -/
inductive Handles (accessor : Accessor σ) (batches : List (List Statement)) :
    Except Failure Unit → List Call → Prop where
  | all : (∀ batch ∈ batches, accessor.Passes batch) →
      Handles accessor batches (.ok ()) (batches.map Call.passed)
  | stopped {early late : List (List Statement)} {batch : List Statement}
      {failure : Failure} : batches = early ++ batch :: late →
      (∀ before ∈ early, accessor.Passes before) → accessor.Fails batch failure →
      Handles accessor batches (.error failure)
        (early.map Call.passed ++ [Call.failed batch failure])

namespace Handles

variable {accessor : Accessor σ} {batches : List (List Statement)} {calls : List Call}

theorem nil : Handles accessor [] (.ok ()) [] := .all (by simp)

theorem cons {batch : List Statement} {outcome : Except Failure Unit}
    (passes : accessor.Passes batch) (rest : Handles accessor batches outcome calls) :
    Handles accessor (batch :: batches) outcome (Call.passed batch :: calls) := by
  cases rest with
  | all later => exact .all (List.forall_mem_cons.mpr ⟨passes, later⟩)
  | @stopped early late last failure cut before fails =>
      have extended : batch :: batches = (batch :: early) ++ last :: late :=
        congrArg (batch :: ·) cut
      exact .stopped extended (List.forall_mem_cons.mpr ⟨passes, before⟩) fails

theorem head {batch : List Statement} {failure : Failure}
    (fails : accessor.Fails batch failure) :
    Handles accessor (batch :: batches) (.error failure) [Call.failed batch failure] := by
  have nothing : ∀ before ∈ ([] : List (List Statement)), accessor.Passes before := by simp
  exact .stopped (List.nil_append _).symm nothing fails

/-- What comes after a failing batch does not matter. -/
theorem append_right {failure : Failure}
    (first : Handles accessor batches (.error failure) calls)
    (more : List (List Statement)) :
    Handles accessor (batches ++ more) (.error failure) calls := by
  cases first with
  | @stopped early late batch failure cut before fails =>
      have extended : batches ++ more = early ++ batch :: (late ++ more) := by simp [cut]
      exact .stopped extended before fails

theorem append {more : List (List Statement)} {outcome : Except Failure Unit}
    {later : List Call} (first : Handles accessor batches (.ok ()) calls)
    (rest : Handles accessor more outcome later) :
    Handles accessor (batches ++ more) outcome (calls ++ later) := by
  cases first with
  | all before =>
      induction batches with
      | nil => exact rest
      | cons batch batches induction =>
          obtain ⟨passes, others⟩ := List.forall_mem_cons.mp before
          exact cons passes (induction others)

/-- Unless a batch fails, all are executed. -/
theorem eq_all {outcome : Except Failure Unit} (handles : Handles accessor batches outcome calls)
    (passed : ∀ call ∈ calls, call.succeeded = true) :
    outcome = .ok () ∧ calls = batches.map Call.passed := by
  cases handles with
  | all => exact ⟨rfl, rfl⟩
  | @stopped early late batch failure cut before fails =>
      have last := passed (Call.failed batch failure) (by simp)
      cases last

theorem succeeded {outcome : Except Failure Unit}
    (handles : Handles accessor batches outcome calls)
    (reliable : ∀ batch failure, ¬accessor.Fails batch failure) :
    ∀ call ∈ calls, call.succeeded = true := by
  cases handles with
  | all =>
      intro call member
      obtain ⟨batch, -, rfl⟩ := List.mem_map.mp member
      rfl
  | stopped cut before fails => exact absurd fails (reliable _ _)

end Handles

/-! ## Batches in turn -/

theorem handles_executeAll (accessor : Accessor σ) (batches : List (List Statement))
    (state : σ) (calls : List Call) :
    ∃ outcome reached new,
      accessor.executeAll batches state = (outcome, reached) ∧
      accessor.watched.executeAll batches (state, calls) = (outcome, reached, calls ++ new) ∧
      Handles accessor batches outcome new := by
  induction batches generalizing state calls with
  | nil => exact ⟨.ok (), state, [], rfl, by rw [List.append_nil]; rfl, .nil⟩
  | cons batch batches induction =>
      simp only [executeAll, execute_watched]
      rcases ended : accessor.execute batch state with ⟨outcome, reached⟩
      cases outcome with
      | error failure =>
          exact ⟨.error failure, reached, [Call.failed batch failure], rfl, rfl,
            .head ⟨state, by rw [ended]⟩⟩
      | ok done =>
          obtain ⟨outcome, final, new, ran, watching, handles⟩ :=
            induction reached (calls ++ [Call.passed batch])
          refine ⟨outcome, final, Call.passed batch :: new, ran, ?_,
            .cons ⟨state, by rw [ended]⟩ handles⟩
          rw [List.append_assoc] at watching
          exact watching

end Accessor

namespace Loader

/-- The failure of a run of which a number of batches have been executed: a statement that
comes first is named. -/
def blame (first : List String) (executed : Nat) (failure : Failure) : Failure :=
  match first[executed]? with
  | some text => .preExecution text failure
  | none => failure

theorem blame_of_le {first : List String} {executed : Nat} (beyond : first.length ≤ executed)
    (failure : Failure) : blame first executed failure = failure := by
  unfold blame
  rw [List.getElem?_eq_none beyond]

theorem handles_executeFirst (accessor : Accessor σ) (first : List String) (state : σ)
    (calls : List Call) :
    ∃ outcome reached new,
      accessor.executeFirst first state =
        (outcome.mapError (blame first (Call.executed new).length), reached) ∧
      accessor.watched.executeFirst first (state, calls) =
        (outcome.mapError (blame first (Call.executed new).length), reached, calls ++ new) ∧
      accessor.Handles (first.map Statement.alone) outcome new := by
  induction first generalizing state calls with
  | nil => exact ⟨.ok (), state, [], rfl, by rw [List.append_nil]; rfl, .nil⟩
  | cons text texts induction =>
      simp only [Accessor.executeFirst, Accessor.execute_watched]
      rcases ended : accessor.execute (Statement.alone text) state with ⟨outcome, reached⟩
      cases outcome with
      | error failure =>
          exact ⟨.error failure, reached, [Call.failed (Statement.alone text) failure], rfl,
            rfl, .head ⟨state, congrArg Prod.fst ended⟩⟩
      | ok done =>
          obtain ⟨outcome, final, new, ran, watching, handles⟩ :=
            induction reached (calls ++ [Call.passed (Statement.alone text)])
          refine ⟨outcome, final, Call.passed (Statement.alone text) :: new, ran, ?_,
            .cons ⟨state, congrArg Prod.fst ended⟩ handles⟩
          rw [List.append_assoc] at watching
          exact watching

/-- What a run hands over, and how it ends.  Watching changes neither. -/
theorem handles_load (accessor : Accessor σ) (filter : Filter) (batchSize : Nat)
    (first : List String) (facts : List Fact) (state : σ) :
    ∃ outcome ended reached calls,
      load accessor filter batchSize first facts state = (ended, reached) ∧
      load accessor.watched filter batchSize first facts (state, []) =
        (ended, reached, calls) ∧
      accessor.Handles (plan filter batchSize first facts) outcome calls ∧
      ended = (outcome.map fun _ => report filter batchSize first facts).mapError
        (blame first (Call.executed calls).length) := by
  obtain ⟨outcome, reached, calls, ran, watching, handles⟩ :=
    handles_executeFirst accessor first state []
  rw [load_eq, load_eq, ran, watching]
  cases outcome with
  | error failure =>
      exact ⟨.error failure, _, reached, calls, rfl, rfl, handles.append_right _, rfl⟩
  | ok done =>
      obtain ⟨outcome, final, later, ranLater, watchingLater, handlesLater⟩ :=
        Accessor.handles_executeAll accessor (portions filter batchSize facts) reached calls
      have beyond : ∀ failure, blame first (Call.executed (calls ++ later)).length failure =
          failure := by
        intro failure
        cases handles with
        | all =>
            rw [Call.executed_passed_append]
            exact blame_of_le (by simp) failure
      refine ⟨outcome, outcome.map fun _ => report filter batchSize first facts, final,
        calls ++ later, ?_, ?_, handles.append handlesLater, ?_⟩
      · exact congrArg (Prod.map _ id) ranLater
      · exact congrArg (Prod.map _ id) watchingLater
      · cases outcome with
        | ok done => rfl
        | error failure => exact congrArg Except.error (beyond failure).symm

/-- No batch of a run fails if none can. -/
theorem succeeded_of_reliable {accessor : Accessor σ}
    (reliable : ∀ batch failure, ¬accessor.Fails batch failure) (filter : Filter)
    (batchSize : Nat) (first : List String) (facts : List Fact) (state : σ) :
    ∀ call ∈ (load accessor.watched filter batchSize first facts (state, [])).2.2,
      call.succeeded = true := by
  obtain ⟨outcome, ended, reached, calls, -, watching, handles, -⟩ :=
    handles_load accessor filter batchSize first facts state
  rw [watching]
  exact handles.succeeded reliable

end Loader

end CodeGraph
