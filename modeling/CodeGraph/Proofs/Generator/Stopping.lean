import Mathlib.Data.List.TakeWhile
import CodeGraph.Generator
import CodeGraph.Proofs.Loader.Calls

/-!
# Runs that stop at a failing batch

What a run hands over is fixed before the first batch, so that a run over an accessor that
fails some batches is a run over a reliable one, cut off after the first of these.
-/

namespace CodeGraph

variable {σ τ : Type}

theorem Statement.ofFact_not_mem_alone (fact : Fact) (text : String) :
    Statement.ofFact fact ∉ Statement.alone text := by
  intro member
  have same := congrArg Statement.parameters (List.mem_singleton.mp member)
  cases fact <;> cases same

theorem Statement.alone_injective {text other : String}
    (same : Statement.alone text = Statement.alone other) : text = other :=
  congrArg Statement.text (List.singleton_inj.mp same)

/-- A failure is not told with itself as its cause. -/
theorem Failure.ne_preExecution (text : String) (failure : Failure) :
    failure ≠ .preExecution text failure := by
  intro same
  have sizes := congrArg sizeOf same
  simp only [Failure.preExecution.sizeOf_spec] at sizes
  omega

namespace Accessor

/-- The accessor fails exactly the batches for which the test holds. -/
def FailsExactly (accessor : Accessor σ) (test : List Statement → Bool) : Prop :=
  ∀ batch state, (∃ failure, (accessor.execute batch state).1 = .error failure) ↔
    test batch = true

variable {accessor : Accessor σ} {test : List Statement → Bool} {batch : List Statement}

theorem FailsExactly.of_passes (exactly : accessor.FailsExactly test)
    (passes : accessor.Passes batch) : test batch = false := by
  obtain ⟨state, passed⟩ := passes
  rw [Bool.eq_false_iff]
  intro holds
  obtain ⟨failure, failed⟩ := (exactly batch state).mpr holds
  rw [passed] at failed
  cases failed

theorem FailsExactly.of_fails {failure : Failure} (exactly : accessor.FailsExactly test)
    (fails : accessor.Fails batch failure) : test batch = true := by
  obtain ⟨state, failed⟩ := fails
  exact (exactly batch state).mp ⟨failure, failed⟩

namespace Handles

variable {batches : List (List Statement)} {outcome : Except Failure Unit} {calls : List Call}

theorem outcome_eq_ok (handles : accessor.Handles batches outcome calls)
    (exactly : accessor.FailsExactly test) (untouched : ∀ batch ∈ batches, test batch = false) :
    outcome = .ok () := by
  cases handles with
  | all => rfl
  | @stopped early late batch failure cut before fails =>
      have passes := untouched batch (by simp [cut])
      rw [exactly.of_fails fails] at passes
      cases passes

/-- If batches fail, the first of these is the last that is handed over. -/
theorem exists_cut (handles : accessor.Handles batches outcome calls)
    (exactly : accessor.FailsExactly test) (failing : ∃ batch ∈ batches, test batch = true) :
    ∃ early batch late failure,
      batches = early ++ batch :: late ∧ (∀ before ∈ early, test before = false) ∧
      test batch = true ∧ accessor.Fails batch failure ∧
      calls = early.map Call.passed ++ [Call.failed batch failure] ∧ outcome = .error failure := by
  cases handles with
  | all passes =>
      obtain ⟨batch, member, holds⟩ := failing
      rw [exactly.of_passes (passes batch member)] at holds
      cases holds
  | @stopped early late batch failure cut before fails =>
      exact ⟨early, batch, late, failure, cut,
        fun earlier member => exactly.of_passes (before earlier member),
        exactly.of_fails fails, fails, rfl, rfl⟩

theorem executed_eq_takeWhile (handles : accessor.Handles batches outcome calls)
    (exactly : accessor.FailsExactly test) :
    Call.executed calls = batches.takeWhile fun batch => !test batch := by
  cases handles with
  | all passes =>
      rw [Call.executed_map_passed, eq_comm, List.takeWhile_eq_self_iff]
      intro batch member
      simp [exactly.of_passes (passes batch member)]
  | @stopped early late batch failure cut before fails =>
      have untouched : ∀ earlier ∈ early, (!test earlier) = true := by
        intro earlier member
        simp [exactly.of_passes (before earlier member)]
      rw [Call.executed_passed_append, cut, List.takeWhile_append_of_pos untouched]
      simp [exactly.of_fails fails]

end Handles

theorem failsExactly_recording (test : List Statement → Bool) (failure : Failure) :
    (recording fun batch => if test batch then some failure else none).FailsExactly test := by
  intro batch log
  simp only [recording]
  cases test batch <;> simp

theorem not_fails_recording (batch : List Statement) (failure : Failure) :
    ¬(recording fun _ => none).Fails batch failure := by
  rintro ⟨log, fails⟩
  cases fails

end Accessor

namespace Loader

variable {filter : Filter} {batchSize : Nat} {first : List String} {facts : List Fact}

theorem alone_not_mem_portions {text : String} :
    Statement.alone text ∉ portions filter batchSize facts := by
  intro member
  have cut := Writer.flatten_portions batchSize [] ((filter.written facts).map Statement.ofFact)
  have inside : ({ text } : Statement) ∈ (filter.written facts).map Statement.ofFact := by
    rw [← List.nil_append ((filter.written facts).map Statement.ofFact), ← cut]
    exact List.mem_flatten.mpr ⟨_, member, List.mem_singleton.mpr rfl⟩
  obtain ⟨fact, -, same⟩ := List.mem_map.mp inside
  exact Statement.ofFact_not_mem_alone fact text (same ▸ List.mem_singleton.mpr rfl)

/-- A batch of a run is either that of a statement that comes first, and then so are those
before it, or one of the batches of facts. -/
theorem of_plan_eq_append {early late : List (List Statement)} {batch : List Statement}
    (cut : plan filter batchSize first facts = early ++ batch :: late) :
    (∃ text, first[early.length]? = some text ∧ batch = Statement.alone text ∧
      ∀ before ∈ early, ∃ other, before = Statement.alone other) ∨
    (first.length ≤ early.length ∧ batch ∈ portions filter batchSize facts) := by
  have here : (plan filter batchSize first facts)[early.length]? = some batch := by
    rw [cut]
    simp
  rcases Nat.lt_or_ge early.length first.length with within | beyond
  · left
    have withinBatches : early.length < (first.map Statement.alone).length := by
      rw [List.length_map]
      exact within
    rw [plan, List.getElem?_append_left withinBatches, List.getElem?_map,
      Option.map_eq_some_iff] at here
    obtain ⟨text, found, same⟩ := here
    refine ⟨text, found, same.symm, ?_⟩
    intro before member
    have cutStart : (plan filter batchSize first facts).take early.length =
        (first.map Statement.alone).take early.length :=
      List.take_append_of_le_length (Nat.le_of_lt withinBatches)
    rw [cut, List.take_left] at cutStart
    rw [cutStart] at member
    obtain ⟨other, -, same⟩ := List.mem_map.mp (List.mem_of_mem_take member)
    exact ⟨other, same.symm⟩
  · right
    have beyondBatches : (first.map Statement.alone).length ≤ early.length := by
      rw [List.length_map]
      exact beyond
    rw [plan, List.getElem?_append_right beyondBatches] at here
    exact ⟨beyond, List.mem_of_getElem? here⟩

/-- A failure is told with its statement if and only if the batch is that of a statement that
comes first, before which no fact has been handed over. -/
theorem blame_of_plan_eq_append {early late : List (List Statement)} {batch : List Statement}
    (cut : plan filter batchSize first facts = early ++ batch :: late) (failure : Failure) :
    (∃ text ∈ first, batch = Statement.alone text ∧
      blame first early.length failure = .preExecution text failure ∧
      ∀ before ∈ early, ∀ fact, Statement.ofFact fact ∉ before) ∨
    ((∀ text, batch ≠ Statement.alone text) ∧ blame first early.length failure = failure) := by
  rcases of_plan_eq_append cut with ⟨text, found, rfl, alone⟩ | ⟨beyond, member⟩
  · refine .inl ⟨text, List.mem_of_getElem? found, rfl, ?_, ?_⟩
    · rw [blame, found]
    · intro before earlier fact
      obtain ⟨other, rfl⟩ := alone before earlier
      exact Statement.ofFact_not_mem_alone fact other
  · refine .inr ⟨?_, blame_of_le beyond failure⟩
    rintro text rfl
    exact alone_not_mem_portions member

end Loader

namespace Generator

/-- The batches of a run of a generator, in order. -/
def plan (generator : Generator) (units : List Node) : List (List Statement) :=
  Loader.plan generator.filter generator.settings.batchSize generator.settings.firstStatements
    (generator.facts units)

theorem handles_run (generator : Generator) (accessor : Accessor σ) (units : List Node)
    (state : σ) :
    ∃ outcome ended reached calls,
      generator.run accessor units state = (ended, reached) ∧
      generator.run accessor.watched units (state, []) = (ended, reached, calls) ∧
      accessor.Handles (generator.plan units) outcome calls ∧
      (outcome = .ok () → ∃ stats, ended = .ok stats) ∧
      (∀ failure, outcome = .error failure →
        ended = .error (Loader.blame generator.settings.firstStatements
          (Call.executed calls).length failure)) := by
  obtain ⟨outcome, ended, reached, calls, plain, watching, handles, told⟩ :=
    Loader.handles_load accessor generator.filter generator.settings.batchSize
      generator.settings.firstStatements (generator.facts units) state
  refine ⟨outcome, ended.map fun stats => { stats with visitorFaults := generator.faults units },
    reached, calls, ?_, ?_, handles, ?_, ?_⟩
  · rw [run, plain]
  · rw [run, watching]
  · rintro rfl
    exact ⟨_, congrArg (Except.map _) told⟩
  · rintro failure rfl
    exact congrArg (Except.map _) told

/-- Over a reliable accessor, a run executes all its batches. -/
theorem executed_of_reliable (generator : Generator) {accessor : Accessor σ} (units : List Node)
    (reliable : ∀ batch failure, ¬accessor.Fails batch failure) (state : σ) :
    Call.executed (generator.run accessor.watched units (state, [])).2.2 =
      generator.plan units := by
  obtain ⟨outcome, ended, reached, calls, -, watching, handles, -⟩ :=
    generator.handles_run accessor units state
  obtain ⟨-, rfl⟩ := handles.eq_all (handles.succeeded reliable)
  rw [watching, Call.executed_map_passed]

/-- Over an accessor that fails some batches, a run executes what it executes over a reliable
one, up to the first of these.  Nothing is handed over after that batch, and its failure is
the failure of the run, which names the statement if it is one of those that come first. -/
theorem run_stops_at_failure (generator : Generator) (units : List Node)
    {accessor : Accessor σ} {test : List Statement → Bool}
    (exactly : accessor.FailsExactly test) {other : Accessor τ}
    (reliable : ∀ batch failure, ¬other.Fails batch failure) (state : σ) (start : τ) :
    let sequence := Call.executed (generator.run other.watched units (start, [])).2.2
    let first := generator.settings.firstStatements
    ∃ ended reached calls,
      generator.run accessor units state = (ended, reached) ∧
      generator.run accessor.watched units (state, []) = (ended, reached, calls) ∧
      Call.executed calls = sequence.takeWhile (fun batch => !test batch) ∧
      ((∀ batch ∈ sequence, test batch = false) → ∃ stats, ended = .ok stats) ∧
      ((∃ batch ∈ sequence, test batch = true) →
        ∃ early batch late failure error,
          sequence = early ++ batch :: late ∧
          (∀ before ∈ early, test before = false) ∧ test batch = true ∧
          accessor.Fails batch failure ∧
          calls = early.map Call.passed ++ [Call.failed batch failure] ∧
          ended = .error error ∧
          ((∃ text, error = .preExecution text failure) ↔
            ∃ text ∈ first, batch = Statement.alone text) ∧
          (∀ text, batch = Statement.alone text →
            error = .preExecution text failure ∧
            ∀ executed ∈ Call.executed calls, ∀ fact, Statement.ofFact fact ∉ executed) ∧
          ((¬∃ text ∈ first, batch = Statement.alone text) → error = failure)) := by
  intro sequence first
  have planned : sequence = generator.plan units :=
    generator.executed_of_reliable units reliable start
  obtain ⟨outcome, ended, reached, calls, plain, watching, handles, fine, wrong⟩ :=
    generator.handles_run accessor units state
  rw [planned]
  refine ⟨ended, reached, calls, plain, watching, handles.executed_eq_takeWhile exactly,
    fun allPass => fine (handles.outcome_eq_ok exactly allPass), ?_⟩
  intro failing
  obtain ⟨early, batch, late, failure, cut, untouched, holds, fails, rfl, stopped⟩ :=
    handles.exists_cut exactly failing
  have executed : Call.executed (early.map Call.passed ++ [Call.failed batch failure]) =
      early := by
    simp
  refine ⟨early, batch, late, failure, _, cut, untouched, holds, fails, rfl,
    wrong failure stopped, ?_⟩
  rw [executed]
  rcases Loader.blame_of_plan_eq_append cut failure with
    ⟨text, member, rfl, told, nothing⟩ | ⟨different, told⟩
  · refine ⟨⟨fun _ => ⟨text, member, rfl⟩, fun _ => ⟨text, told⟩⟩, ?_, ?_⟩
    · intro other same
      obtain rfl := Statement.alone_injective same
      exact ⟨told, nothing⟩
    · intro unnamed
      exact absurd ⟨text, member, rfl⟩ unnamed
  · refine ⟨⟨?_, ?_⟩, ?_, fun _ => told⟩
    · rintro ⟨text, named⟩
      exact absurd (told.symm.trans named) (Failure.ne_preExecution text failure)
    · rintro ⟨text, -, same⟩
      exact absurd same (different text)
    · intro text same
      exact absurd same (different text)

/-- Two nodes are written, and the batch with the relationship between them fails. -/
theorem run_stops_at_failure_relationship :
    let generator : Generator :=
      { settings :=
          { usePreStatements := true, preStatements := ["CREATE (a:T)"], batchSize := 2 }
        filter := Filter.empty false, stopped := KindSet.empty, rejected := [] }
    let units : List Node :=
      [{ kind := .typeDeclaration, qualifiedName := some "a.C", children :=
          [{ kind := .methodDeclaration, qualifiedName := some "a.C.f",
             declaringType := some "a.C" }] }]
    let test (batch : List Statement) : Bool :=
      batch.any fun statement => (statement.parameters.getD []).any (·.1 == "from")
    let accessor := Accessor.recording fun batch => if test batch then some .transport else none
    let other := Accessor.recording fun _ => none
    accessor.FailsExactly test ∧
    (∀ batch failure, ¬other.Fails batch failure) ∧
    ∃ reached calls,
      generator.run accessor units [] = (.error .transport, reached) ∧
      generator.run accessor.watched units ([], []) = (.error .transport, reached, calls) ∧
      (Call.executed calls).map List.length = [1, 2] := by
  intro generator units test
  have failing : (generator.plan units).any test = true := by decide +revert
  have fine : ((generator.plan units).takeWhile fun batch => !test batch).map List.length =
      [1, 2] := by
    decide +revert
  intro accessor other
  have exactly : accessor.FailsExactly test := Accessor.failsExactly_recording test .transport
  have reliable := Accessor.not_fails_recording
  obtain ⟨ended, reached, calls, plain, watching, executed, -, wrong⟩ :=
    run_stops_at_failure generator units exactly reliable [] []
  rw [generator.executed_of_reliable units reliable []] at executed wrong
  obtain ⟨early, batch, late, failure, error, -, -, holds, fails, -, rfl, -, -, unnamed⟩ :=
    wrong (List.any_eq_true.mp failing)
  obtain rfl : failure = .transport := by
    obtain ⟨log, failed⟩ := fails
    simpa [accessor, Accessor.recording, holds] using failed.symm
  obtain rfl : error = .transport := by
    apply unnamed
    rintro ⟨text, -, rfl⟩
    cases holds
  exact ⟨exactly, reliable, reached, calls, plain, watching, executed ▸ fine⟩

end Generator

end CodeGraph
