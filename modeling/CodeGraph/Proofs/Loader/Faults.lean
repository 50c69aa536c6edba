import CodeGraph.Proofs.Loader.Counts
import CodeGraph.Proofs.Loader.Rerun
import CodeGraph.Proofs.Writer.Conservation
import Mathlib.Data.List.Nodup
import Mathlib.Data.List.Pairwise

/-!
# Going on after failures

A run can go on after a fact could not be taken in.  The batch that failed is not handed over
again, and the keys of its facts have been seen.  Only the fact that filled the batch is not
counted as written, so that the counters exceed what was executed by the others, and a
repetition of any of them is skipped.
-/

namespace CodeGraph

variable {σ : Type}

/-! ## Calls that failed -/

namespace Call

/-- How many calls failed. -/
def missed (calls : List Call) : Nat := calls.countP fun call => !call.succeeded

theorem missed_eq_zero {calls : List Call} :
    missed calls = 0 ↔ ∀ call ∈ calls, call.succeeded = true := by
  simp [missed]

theorem missed_append (calls later : List Call) :
    missed (calls ++ later) = missed calls + missed later := List.countP_append

/-- If the batches that failed are full, each of them is one statement and the others that fit
beside it. -/
theorem length_flatten {size : Nat} {calls : List Call}
    (full : ∀ call ∈ calls, call.succeeded = false → 0 < size ∧ call.batch.length = size) :
    (calls.map batch).flatten.length =
      (executed calls).flatten.length + missed calls * (size - 1) + missed calls := by
  induction calls with
  | nil => simp [executed, missed]
  | cons call calls induction =>
      obtain ⟨here, later⟩ := List.forall_mem_cons.mp full
      have rest := induction later
      rw [List.map_cons, List.flatten_cons, List.length_append, rest]
      cases ended : call.succeeded with
      | true =>
          have executes : executed (call :: calls) = call.batch :: executed calls := by
            simp [executed, ended]
          have misses : missed (call :: calls) = missed calls := by simp [missed, ended]
          rw [executes, misses, List.flatten_cons, List.length_append]
          omega
      | false =>
          have executes : executed (call :: calls) = executed calls := by
            simp [executed, ended]
          have misses : missed (call :: calls) = missed calls + 1 := by simp [missed, ended]
          obtain ⟨sized, filled⟩ := here ended
          rw [executes, misses, filled, Nat.add_mul, Nat.one_mul]
          omega

/-- If no statement is handed over twice, those of a failed batch are not executed. -/
theorem not_mem_executed {calls : List Call} (different : (calls.map batch).flatten.Nodup)
    {call : Call} (member : call ∈ calls) (failed : call.succeeded = false)
    {statement : Statement} (inBatch : statement ∈ call.batch) :
    statement ∉ (executed calls).flatten := by
  intro executes
  obtain ⟨other, kept, inOther⟩ := List.mem_flatten.mp executes
  obtain ⟨other, passed, rfl⟩ := List.mem_map.mp kept
  obtain ⟨inCalls, passed⟩ := List.mem_filter.mp passed
  have apart : calls.Pairwise fun left right => List.Disjoint left.batch right.batch :=
    List.pairwise_map.mp (List.nodup_flatten.mp different).2
  have symmetric : Std.Symm fun left right : Call =>
      List.Disjoint left.batch right.batch := ⟨fun _ _ disjoint _ there here => disjoint here there⟩
  have distinct : call ≠ other := by
    intro same
    rw [same, passed] at failed
    cases failed
  exact apart.forall member inCalls distinct inBatch inOther

/-- If no statement is handed over twice and no batch is empty, all statements are executed
just if no batch fails. -/
theorem all_executed_iff {calls : List Call} (different : (calls.map batch).flatten.Nodup)
    (nonempty : ∀ call ∈ calls, call.batch ≠ []) :
    (∀ statement ∈ (calls.map batch).flatten, statement ∈ (executed calls).flatten) ↔
      ∀ call ∈ calls, call.succeeded = true := by
  constructor
  · intro all call member
    cases ended : call.succeeded with
    | true => rfl
    | false =>
        obtain ⟨statement, inBatch⟩ := List.exists_mem_of_ne_nil _ (nonempty call member)
        have given : statement ∈ (calls.map batch).flatten :=
          List.mem_flatten.mpr ⟨call.batch, List.mem_map_of_mem member, inBatch⟩
        exact absurd (all statement given) (not_mem_executed different member ended inBatch)
  · intro passed
    have everything : calls.filter succeeded = calls := List.filter_eq_self.mpr passed
    rw [executed, everything]
    exact fun statement given => given

end Call

/-! ## The statements of different facts -/

/-- The clauses tell the label or the relation, and the parameters tell the names. -/
theorem Statement.key_eq_of_ofFact_eq {left right : Fact}
    (same : ofFact left = ofFact right) : left.key = right.key := by
  have parameters := congrArg Statement.parameters same
  have prepared := congrArg prepare same
  rw [prepare_ofFact, prepare_ofFact] at prepared
  have clauses : (bound left).clauses = (bound right).clauses :=
    congrArg BoundStatement.clauses (Except.ok.inj prepared)
  cases left with
  | node left =>
      cases right with
      | edge right => simp [bound, boundNode, boundEdge] at clauses
      | node right =>
          have names : left.name = right.name := by
            simp [ofFact, mergeNode] at parameters
            exact parameters.2
          have labels : left.label.name = right.label.name := by
            simp [bound, boundNode] at clauses
            exact clauses.1.1
          rw [Fact.key, Fact.key, NodeLabel.name_injective labels, names]
  | edge left =>
      cases right with
      | node right => simp [bound, boundNode, boundEdge] at clauses
      | edge right =>
          obtain ⟨sources, targets⟩ : left.source = right.source ∧
              left.target = right.target := by
            simp [ofFact, mergeEdge] at parameters
            exact ⟨parameters.1, parameters.2.2⟩
          have relations : left.relation.name = right.relation.name := by
            simp [bound, boundEdge] at clauses
            exact clauses.2.2.1
          rw [Fact.key, Fact.key, Relation.name_injective relations, sources, targets]

/-- The statements of the facts that a run writes are different. -/
theorem Filter.nodup_written (filter : Filter) (facts : List Fact) :
    ((filter.written facts).map Statement.ofFact).Nodup := by
  have different := Fact.pairwise_firsts [] (facts.filter filter.admitsFact)
  exact List.pairwise_map.mpr
    (different.imp fun apart same => apart (Statement.key_eq_of_ofFact_eq same))

/-! ## Writing on -/

/-- The fact, unless its write has failed. -/
def Fact.unlessFailed (fact : Fact) : Except Failure Unit → List Fact
  | .ok () => [fact]
  | .error _ => []

namespace Writer

/-- Writes the statements of facts in turn.  Whether one write fails does not matter to the
next; the facts whose write did not fail are told. -/
def writeFacts (accessor : Accessor σ) : List Fact → Writer × σ → List Fact × Writer × σ
  | [], reached => ([], reached)
  | fact :: facts, reached =>
      let (outcome, between) := (write accessor (.ofFact fact)).run.run reached
      let (counted, ended) := writeFacts accessor facts between
      (fact.unlessFailed outcome ++ counted, ended)

theorem HasRoom.length_eq {writer : Writer} {statement : Statement} (room : writer.HasRoom)
    (sized : 0 < writer.batchSize)
    (filled : writer.batchSize ≤ (writer.pending ++ [statement]).length) :
    (writer.pending ++ [statement]).length = writer.batchSize := by
  have short := room sized
  rw [List.length_append, List.length_singleton] at filled ⊢
  omega

/-- Every batch that is handed over on the way is full, and one fact is not told for each that
failed. -/
theorem writeFacts_conserves (accessor : Accessor σ) (facts : List Fact) {writer : Writer}
    (room : writer.HasRoom) (state : σ) (calls : List Call) :
    let ended := writeFacts accessor facts (writer, state)
    ∃ new, writeFacts accessor.watched facts (writer, state, calls) =
        (ended.1, ended.2.1, ended.2.2, calls ++ new) ∧
      Conserves writer (facts.map Statement.ofFact) new ended.2.1 ∧
      (∀ call ∈ new, 0 < writer.batchSize ∧ call.batch.length = writer.batchSize) ∧
      ended.1.length + Call.missed new = facts.length := by
  induction facts generalizing writer state calls with
  | nil => exact ⟨[], by rw [List.append_nil]; rfl, .refl writer, by simp, rfl⟩
  | cons fact facts induction =>
      obtain ⟨first, watching, start, sent⟩ :=
        write_conserves accessor (.ofFact fact) writer state calls
      dsimp only [writeFacts]
      rw [watching]
      rcases written : (write accessor (.ofFact fact)).run.run (writer, state) with
        ⟨outcome, between, reached⟩
      rw [written] at start sent
      dsimp only at start sent
      obtain ⟨later, rest, conserves, full, count⟩ :=
        induction (start.room room) reached (calls ++ first)
      have size : between.batchSize = writer.batchSize := start.batchSize
      have fullFirst : ∀ call ∈ first,
          0 < writer.batchSize ∧ call.batch.length = writer.batchSize := by
        intro call member
        rcases sent with ⟨none, -⟩ | ⟨one, sized, filled⟩
        · rw [none] at member
          cases member
        · rw [one, List.mem_singleton] at member
          rw [member]
          exact ⟨sized, room.length_eq sized filled⟩
      have countFirst : (fact.unlessFailed outcome).length + Call.missed first = 1 := by
        rcases sent with ⟨none, passed⟩ | ⟨one, -⟩
        · rw [none, passed]
          rfl
        · rw [one]
          cases outcome <;> rfl
      refine ⟨first ++ later, ?_, start.trans conserves, ?_, ?_⟩
      · dsimp only
        rw [rest, List.append_assoc]
      · intro call member
        rcases List.mem_append.mp member with early | late
        · exact fullFirst call early
        · rw [← size]
          exact full call late
      · dsimp only
        rw [List.length_append, Call.missed_append, List.length_cons, ← count, ← countFirst]
        exact Nat.add_add_add_comm _ _ _ _ |>.trans (Nat.add_comm _ _)

/-- If what waits in the end can be sent, the batches that failed were full. -/
theorem writeFacts_flush_conserves {accessor : Accessor σ} {facts counted : List Fact}
    {writer ended : Writer} (room : writer.HasRoom) {state final : σ} {rest : Writer × σ}
    (written : writeFacts accessor facts (writer, state) = (counted, rest))
    (flushed : (flush accessor).run.run rest = (.ok (), ended, final)) (calls : List Call) :
    ∃ waiting new,
      writeFacts accessor.watched facts (writer, state, calls) = (counted, waiting) ∧
      (flush accessor.watched).run.run waiting = (.ok (), ended, final, calls ++ new) ∧
      Conserves writer (facts.map Statement.ofFact) new ended ∧ ended.pending = [] ∧
      (∀ call ∈ new, call.succeeded = false →
        0 < writer.batchSize ∧ call.batch.length = writer.batchSize) ∧
      counted.length + Call.missed new = facts.length := by
  obtain ⟨accepted, watching, start, full, count⟩ :=
    writeFacts_conserves accessor facts room state calls
  rw [written] at watching start count
  obtain ⟨last, flushing, stop, nothing, sent⟩ :=
    flush_conserves accessor rest.1 rest.2 (calls ++ accepted)
  rw [flushed] at flushing stop nothing sent
  have passed : ∀ call ∈ last, call.succeeded = true := by
    intro call member
    rcases sent with ⟨none, -⟩ | one
    · rw [none] at member
      cases member
    · rw [one, List.mem_singleton] at member
      rw [member]
      rfl
  refine ⟨_, accepted ++ last, watching, ?_, ?_, ?_, ?_, ?_⟩
  · rw [flushing, List.append_assoc]
  · have conserves := start.trans stop
    rw [List.append_nil] at conserves
    exact conserves
  · exact List.reverse_eq_nil_iff.mpr nothing
  · intro call member failed
    rcases List.mem_append.mp member with early | late
    · exact full call early
    · rw [passed call late] at failed
      cases failed
  · rw [Call.missed_append, Call.missed_eq_zero.mpr passed]
    exact count

end Writer

/-! ## Loading on -/

namespace Filter

/-- The counters once facts have been taken in, of which only some are counted as written. -/
def tallyCounted (filter : Filter) (counted : List Fact) (seen : List FactKey)
    (facts : List Fact) (stats : RunStats) : RunStats :=
  { filter.tally seen facts stats with
    nodesWritten := stats.nodesWritten + counted.countP Fact.isNode
    edgesWritten := stats.edgesWritten + counted.countP fun fact => !fact.isNode }

variable {filter : Filter} {counted : List Fact} {seen : List FactKey} {fact : Fact}

theorem tallyCounted_refused (refused : filter.admitsFact fact = false) (facts : List Fact)
    (stats : RunStats) :
    filter.tallyCounted counted seen (fact :: facts) stats =
      filter.tallyCounted counted seen facts (fact.countRefused stats) := by
  rw [tallyCounted, tallyCounted, tally, refused]
  cases fact <;> rfl

theorem tallyCounted_repeated (admitted : filter.admitsFact fact = true)
    (before : fact.key ∈ seen) (facts : List Fact) (stats : RunStats) :
    filter.tallyCounted counted seen (fact :: facts) stats =
      filter.tallyCounted counted seen facts
        { stats with duplicatesSkipped := stats.duplicatesSkipped + 1 } := by
  rw [tallyCounted, tallyCounted, tally, if_pos admitted, if_pos before]

theorem tallyCounted_written (admitted : filter.admitsFact fact = true)
    (fresh : fact.key ∉ seen) (facts : List Fact) (stats : RunStats) :
    filter.tallyCounted (fact :: counted) seen (fact :: facts) stats =
      filter.tallyCounted counted (fact.key :: seen) facts (fact.countWritten stats) := by
  rw [tallyCounted, tallyCounted, tally, if_pos admitted, if_neg fresh]
  cases fact <;>
    simp [Fact.countWritten, List.countP_cons, Nat.add_assoc, Nat.add_comm 1]

/-- A fact whose write fails is not counted at all. -/
theorem tallyCounted_failed (admitted : filter.admitsFact fact = true)
    (fresh : fact.key ∉ seen) (facts : List Fact) (stats : RunStats) :
    filter.tallyCounted counted seen (fact :: facts) stats =
      filter.tallyCounted counted (fact.key :: seen) facts stats := by
  rw [tallyCounted, tallyCounted, tally, if_pos admitted, if_neg fresh, tally_eq, tally_eq]
  cases fact <;> rfl

end Filter

namespace Loader

/-- Takes in several facts.  Whether one fails does not matter to the next. -/
def acceptRegardless (accessor : Accessor σ) (facts : List Fact) : Loading σ Unit :=
  facts.forM fun fact => tryCatch (accept accessor fact) fun _ => return ()

/-- Starts, takes in the facts, going on after failures, and finishes. -/
def loadRegardless (accessor : Accessor σ) (filter : Filter) (batchSize : Nat)
    (preStatements : List String) (facts : List Fact) (state : σ) :
    Except Failure RunStats × σ :=
  let action : Loading σ RunStats := do
    start accessor preStatements
    acceptRegardless accessor facts
    finish accessor
  let (outcome, _, _, state) :=
    action.run.run ({ filter }, { batchSize }, state)
  (outcome, state)

theorem run_acceptRegardless_cons (accessor : Accessor σ) (fact : Fact) (facts : List Fact)
    (reached : Loader × Writer × σ) :
    (acceptRegardless accessor (fact :: facts)).run.run reached =
      (acceptRegardless accessor facts).run.run
        ((accept accessor fact).run.run reached).2 := by
  change (tryCatch (accept accessor fact) (fun _ => return ()) >>= fun _ =>
    acceptRegardless accessor facts).run.run reached = _
  rw [run_bind, run_tryCatch]
  rcases (accept accessor fact).run.run reached with ⟨outcome, after⟩
  cases outcome <;> rfl

theorem run_acceptRegardless (accessor : Accessor σ) (facts : List Fact) {loader : Loader}
    {filter : Filter} {seen : List FactKey} (knows : Knows loader filter seen)
    (rest : Writer × σ) :
    let ended :=
      Writer.writeFacts accessor (Fact.firsts seen (facts.filter filter.admitsFact)) rest
    ∃ after, (acceptRegardless accessor facts).run.run (loader, rest) =
        (.ok (), after, ended.2) ∧
      after.stats = filter.tallyCounted ended.1 seen facts loader.stats := by
  induction facts generalizing loader seen rest with
  | nil => exact ⟨loader, rfl, rfl⟩
  | cons fact facts induction =>
      rw [run_acceptRegardless_cons]
      cases admitted : filter.admitsFact fact with
      | false =>
          obtain ⟨between, ran, knowsBetween, stats⟩ :=
            knows.accept_refused admitted accessor rest
          obtain ⟨after, ranRest, counts⟩ := induction knowsBetween rest
          simp only [List.filter_cons, admitted, Bool.false_eq_true, if_false]
          rw [ran]
          refine ⟨after, ranRest, counts.trans ?_⟩
          rw [stats, Filter.tallyCounted_refused admitted]
      | true =>
          simp only [List.filter_cons, admitted, if_true, Fact.firsts]
          by_cases before : fact.key ∈ seen
          · obtain ⟨between, ran, knowsBetween, stats⟩ :=
              knows.accept_repeated admitted before accessor rest
            obtain ⟨after, ranRest, counts⟩ := induction knowsBetween rest
            rw [if_pos before, ran]
            refine ⟨after, ranRest, counts.trans ?_⟩
            rw [stats, Filter.tallyCounted_repeated admitted before]
          · obtain ⟨between, ran, knowsBetween, stats⟩ :=
              knows.accept_new admitted before accessor rest
            rw [if_neg before, ran, Writer.writeFacts]
            rcases (Writer.write accessor (.ofFact fact)).run.run rest with ⟨outcome, reached⟩
            cases outcome with
            | error failure =>
                obtain ⟨after, ranRest, counts⟩ := induction knowsBetween reached
                refine ⟨after, ranRest, counts.trans ?_⟩
                rw [stats]
                exact (Filter.tallyCounted_failed admitted before facts loader.stats).symm
            | ok done =>
                obtain ⟨after, ranRest, counts⟩ :=
                  induction (knowsBetween.withStats (fact.countWritten loader.stats)) reached
                refine ⟨after, ranRest, counts.trans ?_⟩
                exact (Filter.tallyCounted_written admitted before facts loader.stats).symm

/-- The counters of a run that goes on after failures. -/
def reportCounted (filter : Filter) (first : List String) (facts counted : List Fact)
    (writer : Writer) : RunStats :=
  { filter.tallyCounted counted [] facts { preStatements := first.length } with
    statements := writer.statements
    batches := writer.batches }

theorem reportCounted_eq (filter : Filter) (first : List String) (facts counted : List Fact)
    (writer : Writer) :
    reportCounted filter first facts counted writer =
      { preStatements := first.length
        nodesWritten := counted.countP Fact.isNode
        nodesBlocked := (filter.refused facts).countP Fact.isNode
        edgesWritten := counted.countP fun fact => !fact.isNode
        edgesDropped := (filter.refused facts).countP fun fact => !fact.isNode
        duplicatesSkipped := (filter.repeated facts).length
        statements := writer.statements
        batches := writer.batches } := by
  rw [reportCounted, Filter.tallyCounted, Filter.tally_eq]
  simp [Filter.repeated]

theorem loadRegardless_eq (accessor : Accessor σ) (filter : Filter) (batchSize : Nat)
    (first : List String) (facts : List Fact) (state : σ) :
    loadRegardless accessor filter batchSize first facts state =
      match accessor.executeFirst first state with
      | (.error failure, reached) => (.error failure, reached)
      | (.ok (), reached) =>
          let (counted, rest) := Writer.writeFacts accessor (filter.written facts)
            (startedWriter batchSize first, reached)
          match (Writer.flush accessor).run.run rest with
          | (.error failure, _, final) => (.error failure, final)
          | (.ok (), writer, final) =>
              (.ok (reportCounted filter first facts counted writer), final) := by
  obtain ⟨stopped, started⟩ := run_start accessor filter batchSize first state
  change Prod.map id (fun reached => reached.2.2)
    ((start accessor first >>= fun _ =>
      acceptRegardless accessor facts >>= fun _ => finish accessor).run.run
        ({ filter }, { batchSize }, state)) = _
  rw [run_bind, started]
  rcases accessor.executeFirst first state with ⟨outcome, reached⟩
  cases outcome with
  | error failure => rfl
  | ok done =>
      let stats : RunStats := { preStatements := first.length }
      obtain ⟨after, ran, counts⟩ := run_acceptRegardless accessor facts
        (Knows.fresh filter stats) (startedWriter batchSize first, reached)
      rw [← Filter.written] at ran counts
      rcases written : Writer.writeFacts accessor (filter.written facts)
        (startedWriter batchSize first, reached) with ⟨counted, rest⟩
      rw [written] at ran counts
      dsimp only at ran counts ⊢
      rw [written, run_bind, ran]
      dsimp only
      rw [run_finish, counts]
      rcases (Writer.flush accessor).run.run rest with ⟨outcome, writer, final⟩
      cases outcome <;> rfl

/-- What a run hands over that goes on after failures and finishes, and what it counts. -/
theorem loadRegardless_conserves {accessor : Accessor σ} {filter : Filter} {batchSize : Nat}
    {first : List String} {facts : List Fact} {state : σ} {stats : RunStats} {reached : σ}
    (finished :
      loadRegardless accessor filter batchSize first facts state = (.ok stats, reached)) :
    ∃ calls counted writer,
      loadRegardless accessor.watched filter batchSize first facts (state, []) =
        (.ok stats, reached, (first.map Statement.alone).map Call.passed ++ calls) ∧
      Writer.Conserves (startedWriter batchSize first)
        ((filter.written facts).map Statement.ofFact) calls writer ∧
      writer.pending = [] ∧
      (∀ call ∈ calls, call.succeeded = false →
        0 < batchSize ∧ call.batch.length = batchSize) ∧
      counted.length + Call.missed calls = (filter.written facts).length ∧
      stats = reportCounted filter first facts counted writer := by
  obtain ⟨outcome, between, early, plain, watching, handles⟩ :=
    handles_executeFirst accessor first state []
  rw [loadRegardless_eq, plain] at finished
  rw [loadRegardless_eq, watching]
  cases outcome with
  | error failure => cases finished
  | ok done =>
      cases handles
      have room : (startedWriter batchSize first).HasRoom := id
      dsimp only [Except.mapError] at finished ⊢
      rcases written : Writer.writeFacts accessor (filter.written facts)
        (startedWriter batchSize first, between) with ⟨counted, rest⟩
      rw [written] at finished
      dsimp only at finished
      rcases flushed : (Writer.flush accessor).run.run rest with ⟨outcome, writer, final⟩
      rw [flushed] at finished
      cases outcome with
      | error failure => cases finished
      | ok done =>
          obtain ⟨rfl, rfl⟩ : reportCounted filter first facts counted writer = stats ∧
              final = reached := by
            simpa using finished
          obtain ⟨waiting, calls, writing, flushing, conserves⟩ :=
            Writer.writeFacts_flush_conserves room written flushed
              ((first.map Statement.alone).map Call.passed)
          refine ⟨calls, counted, writer, ?_, conserves.1, conserves.2.1, conserves.2.2.1,
            conserves.2.2.2, rfl⟩
          rw [List.nil_append, writing]
          dsimp only
          rw [flushing]

/-- A run that goes on after failures and finishes hands over the statement of every fact that
it writes once.  Its counters exceed what it has executed by all but one of the facts of each
batch that failed, so that they tell what it has executed just if the batches hold one fact or
none failed.  Just in the latter case it has executed every fact whose repetitions it skips. -/
theorem loadRegardless_accounts {accessor : Accessor σ} {filter : Filter} {batchSize : Nat}
    {first : List String} {facts : List Fact} {state : σ} {stats : RunStats} {reached : σ}
    (finished :
      loadRegardless accessor filter batchSize first facts state = (.ok stats, reached)) :
    ∃ calls,
      loadRegardless accessor.watched filter batchSize first facts (state, []) =
        (.ok stats, reached, (first.map Statement.alone).map Call.passed ++ calls) ∧
      (calls.map Call.batch).flatten = (filter.written facts).map Statement.ofFact ∧
      (∀ call ∈ calls, call.succeeded = false → call.batch.length = batchSize) ∧
      stats.statements = first.length + (Call.executed calls).flatten.length ∧
      stats.batches = first.length + (Call.executed calls).length ∧
      stats.preStatements + stats.nodesWritten + stats.edgesWritten =
        stats.statements + Call.missed calls * (batchSize - 1) ∧
      stats.duplicatesSkipped = (filter.repeated facts).length ∧
      stats.nodesWritten + stats.edgesWritten + stats.nodesBlocked + stats.edgesDropped +
        stats.duplicatesSkipped + Call.missed calls = facts.length ∧
      (stats.statements = stats.preStatements + stats.nodesWritten + stats.edgesWritten ↔
        batchSize ≤ 1 ∨ ∀ call ∈ calls, call.succeeded = true) ∧
      ((∀ fact ∈ filter.written facts,
          Statement.ofFact fact ∈ (Call.executed calls).flatten) ↔
        ∀ call ∈ calls, call.succeeded = true) := by
  obtain ⟨calls, counted, writer, watching, conserves, nothing, full, count, rfl⟩ :=
    loadRegardless_conserves finished
  have flatten : (calls.map Call.batch).flatten =
      (filter.written facts).map Statement.ofFact := by
    have conserved := conserves.flatten
    rw [nothing, List.append_nil] at conserved
    exact conserved
  have sizes := Call.length_flatten full
  rw [flatten, List.length_map] at sizes
  have kinds := Fact.countP_add_countP_not Fact.isNode counted
  have refused := Fact.countP_add_countP_not Fact.isNode (filter.refused facts)
  have classes := filter.length_classes facts
  have statements : writer.statements = first.length + (Call.executed calls).flatten.length :=
    conserves.statements
  have batches : writer.batches = first.length + (Call.executed calls).length :=
    conserves.batches
  rw [reportCounted_eq] at watching ⊢
  have exceeds : first.length + counted.countP Fact.isNode +
      (counted.countP fun fact => !fact.isNode) =
        writer.statements + Call.missed calls * (batchSize - 1) := by
    omega
  refine ⟨calls, watching, flatten, fun call member failed => (full call member failed).2,
    statements, batches, exceeds, rfl, ?_, ?_, ?_⟩
  · dsimp only
    omega
  · dsimp only
    rw [exceeds, ← Call.missed_eq_zero, Nat.left_eq_add, Nat.mul_eq_zero,
      Nat.sub_eq_zero_iff_le]
    exact Or.comm
  · have executed := Call.all_executed_iff (flatten ▸ filter.nodup_written facts)
      conserves.nonempty
    rw [flatten, List.forall_mem_map] at executed
    exact executed

end Loader

/-! ## A batch that fails -/

/-- Is the text the value of a parameter? -/
def Statement.tells (statement : Statement) (text : String) : Bool :=
  (statement.parameters.getD []).any fun entry =>
    match entry.2 with
    | .text value => value == text
    | _ => false

/-- The recording accessor that fails the batches in which a text is the value of a parameter. -/
def Accessor.refusing (text : String) : Accessor (List (List Statement)) :=
  recording fun batch => if batch.any (·.tells text) then some .transport else none

namespace Loader

/-- Two nodes, of which the second can be refused, and the first again. -/
def interrupted : List Fact :=
  [.node ⟨.type, "a.A", OrderedMap.empty⟩, .node ⟨.type, "a.Bad", OrderedMap.empty⟩,
    .node ⟨.type, "a.A", OrderedMap.empty⟩]

theorem loadRegardless_interrupted :
    loadRegardless (Accessor.refusing "a.Bad") (Filter.empty false) 2 [] interrupted [] =
      (.ok { nodesWritten := 1, duplicatesSkipped := 1 }, []) := by
  rw [loadRegardless_eq]
  rfl

/-- The batch of the first two facts fails, and the third one is skipped. -/
theorem loadRegardless_accounts_interrupted :
    let accessor := Accessor.refusing "a.Bad"
    ∃ stats calls,
      loadRegardless accessor (Filter.empty false) 2 [] interrupted [] = (.ok stats, []) ∧
      loadRegardless accessor.watched (Filter.empty false) 2 [] interrupted ([], []) =
        (.ok stats, [], calls) ∧
      (calls.map Call.batch).flatten =
        [Statement.ofFact (.node ⟨.type, "a.A", OrderedMap.empty⟩),
          Statement.ofFact (.node ⟨.type, "a.Bad", OrderedMap.empty⟩)] ∧
      (Call.executed calls).flatten = [] ∧ Call.missed calls = 1 := by
  obtain ⟨calls, watching, flatten, full, statements, -, exceeds, -⟩ :=
    loadRegardless_accounts loadRegardless_interrupted
  have nothing : (Call.executed calls).flatten.length = 0 := by
    simpa using statements.symm
  have one : Call.missed calls = 1 := by
    simpa using exceeds.symm
  exact ⟨_, calls, loadRegardless_interrupted, watching, flatten,
    List.eq_nil_of_length_eq_zero nothing, one⟩

/-- A node is counted as written, and skipped when it comes again, but nothing is executed. -/
theorem loadRegardless_miscounts_interrupted :
    ∃ stats,
      loadRegardless (Accessor.refusing "a.Bad") (Filter.empty false) 2 [] interrupted [] =
        (.ok stats, []) ∧
      stats.statements ≠ stats.preStatements + stats.nodesWritten + stats.edgesWritten ∧
      stats.duplicatesSkipped = 1 :=
  ⟨_, loadRegardless_interrupted, by decide, rfl⟩

end Loader

end CodeGraph
