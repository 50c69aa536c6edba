import CodeGraph.Loader
import CodeGraph.Proofs.Loader.Batches

/-!
# The facts that a loader writes

Neither the table of decisions nor the set of keys changes what is written: it is the
admitted facts, each key only the first time that it comes.
-/

namespace CodeGraph

variable {σ : Type}

/-- The names that a fact is about. -/
def Fact.names : Fact → List String
  | .node fact => [fact.name]
  | .edge fact => [fact.source, fact.target]

/-- Are all the names of a fact admitted? -/
def Filter.admitsFact (filter : Filter) (fact : Fact) : Bool := fact.names.all filter.admits

/-- The facts whose keys have not been seen, each key only the first time. -/
def Fact.firsts (seen : List FactKey) : List Fact → List Fact
  | [] => []
  | fact :: facts =>
      if fact.key ∈ seen then firsts seen facts else fact :: firsts (fact.key :: seen) facts

/-- The facts that a run writes, in order. -/
def Filter.written (filter : Filter) (facts : List Fact) : List Fact :=
  Fact.firsts [] (facts.filter filter.admitsFact)

theorem Fact.mem_firsts {seen : List FactKey} {facts : List Fact} {fact : Fact}
    (member : fact ∈ Fact.firsts seen facts) : fact ∈ facts ∧ fact.key ∉ seen := by
  induction facts generalizing seen with
  | nil => cases member
  | cons first facts induction =>
      rw [Fact.firsts] at member
      split at member
      next before =>
        obtain ⟨later, fresh⟩ := induction member
        exact ⟨List.mem_cons_of_mem first later, fresh⟩
      next fresh =>
        rcases List.mem_cons.mp member with here | rest
        · subst fact
          exact ⟨List.mem_cons_self, fresh⟩
        · obtain ⟨later, unseen⟩ := induction rest
          exact ⟨List.mem_cons_of_mem first later,
            fun old => unseen (List.mem_cons_of_mem first.key old)⟩

theorem Filter.mem_written {filter : Filter} {facts : List Fact} {fact : Fact}
    (member : fact ∈ filter.written facts) : fact ∈ facts ∧ filter.admitsFact fact = true :=
  List.mem_filter.mp (Fact.mem_firsts member).1

/-- The counters once a fact has been written. -/
def Fact.countWritten : Fact → RunStats → RunStats
  | .node _, stats => { stats with nodesWritten := stats.nodesWritten + 1 }
  | .edge _, stats => { stats with edgesWritten := stats.edgesWritten + 1 }

/-- The counters once a fact has not been admitted. -/
def Fact.countRefused : Fact → RunStats → RunStats
  | .node _, stats => { stats with nodesBlocked := stats.nodesBlocked + 1 }
  | .edge _, stats => { stats with edgesDropped := stats.edgesDropped + 1 }

/-- The counters once facts have been taken in, of which those with keys that have been seen
are not written. -/
def Filter.tally (filter : Filter) : List FactKey → List Fact → RunStats → RunStats
  | _, [], stats => stats
  | seen, fact :: facts, stats =>
      if filter.admitsFact fact then
        if fact.key ∈ seen then
          tally filter seen facts
            { stats with duplicatesSkipped := stats.duplicatesSkipped + 1 }
        else tally filter (fact.key :: seen) facts (fact.countWritten stats)
      else tally filter seen facts (fact.countRefused stats)

namespace Loader

/-- Every decision in the table is the one that the filter takes. -/
def Faithful (loader : Loader) : Prop :=
  ∀ name decision, loader.decisions[name]? = some decision →
    decision = loader.filter.admits name

/-- The loader once the decision about a name has been taken. -/
def decided (loader : Loader) (name : String) : Loader :=
  match loader.decisions[name]? with
  | some _ => loader
  | none =>
      { loader with
        decisions := loader.decisions.insert name (loader.filter.admits name) }

@[simp] theorem filter_decided (loader : Loader) (name : String) :
    (loader.decided name).filter = loader.filter := by
  unfold decided
  split <;> rfl

@[simp] theorem seen_decided (loader : Loader) (name : String) :
    (loader.decided name).seen = loader.seen := by
  unfold decided
  split <;> rfl

theorem Faithful.decided {loader : Loader} (faithful : loader.Faithful) (name : String) :
    (loader.decided name).Faithful := by
  intro other decision found
  rw [filter_decided]
  unfold Loader.decided at found
  split at found
  next => exact faithful other decision found
  next =>
    rw [Std.HashMap.getElem?_insert] at found
    split at found
    next same =>
      cases found
      rw [eq_of_beq same]
    next => exact faithful other decision found

/-! ## Steps of the loader -/

theorem run_admits {loader : Loader} (faithful : loader.Faithful) (name : String)
    (rest : Writer × σ) :
    (admits name).run.run (loader, rest) =
      (.ok (loader.filter.admits name), loader.decided name, rest) := by
  change ((Except.ok _, _) : Except Failure Bool × Loader × Writer × σ) = _
  cases found : loader.decisions[name]? with
  | none => simp [decided, found]
  | some decision => simp [decided, found, ← faithful name decision found]

theorem run_writing (action : Writer.Writing σ Unit) (loader : Loader) (rest : Writer × σ) :
    (writing action).run.run (loader, rest) =
      ((action.run.run rest).1, loader, (action.run.run rest).2) := by
  unfold writing
  rw [run_bind, run_get]
  dsimp only
  rcases action.run.run rest with ⟨outcome, reached⟩
  cases outcome <;> rfl

/-- A fact with a key that has come before is only counted; another one is written. -/
theorem run_writeOnce (accessor : Accessor σ) (fact : Fact) (written : RunStats → RunStats)
    (loader : Loader) (rest : Writer × σ) :
    (writeOnce accessor fact written).run.run (loader, rest) =
      if loader.seen.contains fact.key then
        (.ok (),
          { loader with
            stats := { loader.stats with
              duplicatesSkipped := loader.stats.duplicatesSkipped + 1 } },
          rest)
      else
        let noted := { loader with seen := loader.seen.insert fact.key }
        match (Writer.write accessor (.ofFact fact)).run.run rest with
        | (.ok (), reached) =>
            (.ok (), { noted with stats := written loader.stats }, reached)
        | (.error failure, reached) => (.error failure, noted, reached) := by
  unfold writeOnce
  rw [run_bind]
  change (match (if loader.seen.contains fact.key then (false, loader, rest)
    else (true, { loader with seen := loader.seen.insert fact.key }, rest) :
      Bool × Loader × Writer × σ) with
    | (new, after) => (if new then _ else _ : Loading σ Unit).run.run after) = _
  cases loader.seen.contains fact.key with
  | true => rfl
  | false =>
      change (writing (Writer.write accessor (.ofFact fact)) >>= fun _ => count written :
        Loading σ Unit).run.run
          ({ loader with seen := loader.seen.insert fact.key }, rest) = _
      rw [run_bind, run_writing]
      simp only [Bool.false_eq_true, if_false]
      rcases (Writer.write accessor (.ofFact fact)).run.run rest with ⟨outcome, reached⟩
      cases outcome <;> rfl

/-- The loader once the names of a fact have been asked about. -/
def asked (loader : Loader) (fact : Fact) : Loader := fact.names.foldl decided loader

theorem run_accept {loader : Loader} (faithful : loader.Faithful) (accessor : Accessor σ)
    (fact : Fact) (rest : Writer × σ) :
    (accept accessor fact).run.run (loader, rest) =
      if loader.filter.admitsFact fact then
        (writeOnce accessor fact fact.countWritten).run.run (loader.asked fact, rest)
      else
        (.ok (),
          { loader.asked fact with stats := fact.countRefused (loader.asked fact).stats },
          rest) := by
  cases fact with
  | node fact =>
      unfold accept
      rw [run_bind, run_admits faithful]
      simp only [Filter.admitsFact, Fact.names, List.all_cons, List.all_nil, Bool.and_true]
      cases loader.filter.admits fact.name <;> rfl
  | edge fact =>
      unfold accept
      rw [run_bind, run_admits faithful]
      dsimp only
      rw [run_bind, run_admits (faithful.decided fact.source), filter_decided]
      simp only [Filter.admitsFact, Fact.names, List.all_cons, List.all_nil, Bool.and_true]
      cases loader.filter.admits fact.source <;> cases loader.filter.admits fact.target <;> rfl

theorem run_finish (accessor : Accessor σ) (loader : Loader) (rest : Writer × σ) :
    (finish accessor).run.run (loader, rest) =
      match (Writer.flush accessor).run.run rest with
      | (.ok (), writer, state) =>
          (.ok { loader.stats with statements := writer.statements, batches := writer.batches },
            loader, writer, state)
      | (.error failure, reached) => (.error failure, loader, reached) := by
  unfold finish
  rw [run_bind, run_writing]
  rcases (Writer.flush accessor).run.run rest with ⟨outcome, writer, state⟩
  cases outcome <;> rfl

/-! ## What a loader knows -/

@[simp] theorem filter_asked (loader : Loader) (fact : Fact) :
    (loader.asked fact).filter = loader.filter := by
  cases fact <;> simp [asked, Fact.names]

@[simp] theorem seen_asked (loader : Loader) (fact : Fact) :
    (loader.asked fact).seen = loader.seen := by
  cases fact <;> simp [asked, Fact.names]

theorem Faithful.asked {loader : Loader} (faithful : loader.Faithful) (fact : Fact) :
    (loader.asked fact).Faithful := by
  cases fact with
  | node fact => exact faithful.decided fact.name
  | edge fact => exact (faithful.decided fact.source).decided fact.target

theorem stats_decided (loader : Loader) (name : String) :
    (loader.decided name).stats = loader.stats := by
  unfold decided
  split <;> rfl

@[simp] theorem stats_asked (loader : Loader) (fact : Fact) :
    (loader.asked fact).stats = loader.stats := by
  cases fact <;> simp [asked, Fact.names, stats_decided]

/-- A loader decides as a filter does, and has seen the keys of a list. -/
structure Knows (loader : Loader) (filter : Filter) (seen : List FactKey) : Prop where
  filter_eq : loader.filter = filter
  faithful : loader.Faithful
  contains : ∀ key, loader.seen.contains key = decide (key ∈ seen)

namespace Knows

variable {loader : Loader} {filter : Filter} {seen : List FactKey} {fact : Fact}

theorem fresh (filter : Filter) (stats : RunStats) : Knows { filter, stats } filter [] := by
  constructor
  · rfl
  · intro name decision found
    simp at found
  · simp

theorem withStats (knows : Knows loader filter seen) (stats : RunStats) :
    Knows { loader with stats } filter seen :=
  ⟨knows.filter_eq, knows.faithful, knows.contains⟩

theorem asked (knows : Knows loader filter seen) (fact : Fact) :
    Knows (loader.asked fact) filter seen := by
  constructor
  · exact (filter_asked loader fact).trans knows.filter_eq
  · exact knows.faithful.asked fact
  · simpa using knows.contains

theorem noted (knows : Knows loader filter seen) (key : FactKey) :
    Knows { loader with seen := loader.seen.insert key } filter (key :: seen) := by
  constructor
  · exact knows.filter_eq
  · exact knows.faithful
  · intro other
    rw [Std.HashSet.contains_insert, knows.contains]
    by_cases here : key = other
    · simp [here]
    · simp [here, Ne.symm here]

/-- A fact that is not admitted is only counted. -/
theorem accept_refused (knows : Knows loader filter seen)
    (refused : filter.admitsFact fact = false) (accessor : Accessor σ) (rest : Writer × σ) :
    ∃ after, (accept accessor fact).run.run (loader, rest) = (.ok (), after, rest) ∧
      Knows after filter seen ∧ after.stats = fact.countRefused loader.stats := by
  rw [run_accept knows.faithful, knows.filter_eq, refused, if_neg Bool.false_ne_true]
  refine ⟨_, rfl, (knows.asked fact).withStats _, ?_⟩
  rw [stats_asked]

/-- So is an admitted fact with a key that has been seen. -/
theorem accept_repeated (knows : Knows loader filter seen)
    (admitted : filter.admitsFact fact = true) (before : fact.key ∈ seen)
    (accessor : Accessor σ) (rest : Writer × σ) :
    ∃ after, (accept accessor fact).run.run (loader, rest) = (.ok (), after, rest) ∧
      Knows after filter seen ∧
      after.stats =
        { loader.stats with duplicatesSkipped := loader.stats.duplicatesSkipped + 1 } := by
  rw [run_accept knows.faithful, knows.filter_eq, if_pos admitted, run_writeOnce,
    (knows.asked fact).contains, if_pos (decide_eq_true before)]
  refine ⟨_, rfl, (knows.asked fact).withStats _, ?_⟩
  rw [stats_asked]

/-- Another admitted fact is written.  Its key has been seen from then on, even if the write
fails. -/
theorem accept_new (knows : Knows loader filter seen)
    (admitted : filter.admitsFact fact = true) (fresh : fact.key ∉ seen)
    (accessor : Accessor σ) (rest : Writer × σ) :
    ∃ after : Loader,
      (accept accessor fact).run.run (loader, rest) =
        (match (Writer.write accessor (.ofFact fact)).run.run rest with
        | (.ok (), reached) =>
            (.ok (), { after with stats := fact.countWritten loader.stats }, reached)
        | (.error failure, reached) => (.error failure, after, reached)) ∧
      Knows after filter (fact.key :: seen) ∧ after.stats = loader.stats := by
  have unseen : ¬decide (fact.key ∈ seen) = true := by simpa using fresh
  rw [run_accept knows.faithful, knows.filter_eq, if_pos admitted, run_writeOnce,
    (knows.asked fact).contains, if_neg unseen, stats_asked]
  exact ⟨_, rfl, ((knows.asked fact).noted fact.key).withStats _, rfl⟩

end Knows

/-! ## A whole run -/

/-- Taking in facts and finishing does to the accessor what writing the statements of the
first admitted facts does, and counts every fact. -/
theorem run_acceptAll (accessor : Accessor σ) (facts : List Fact) {loader : Loader}
    {filter : Filter} {seen : List FactKey} (knows : Knows loader filter seen)
    (rest : Writer × σ) :
    Prod.map id (fun reached => reached.2.2)
        ((acceptAll accessor facts >>= fun _ => finish accessor).run.run (loader, rest)) =
      Prod.map
        (Except.map fun counters =>
          { filter.tally seen facts loader.stats with
            statements := counters.1
            batches := counters.2 })
        id
        (Writer.counted ((Writer.writeAll accessor
          ((Fact.firsts seen (facts.filter filter.admitsFact)).map
            Statement.ofFact)).run.run rest)) := by
  induction facts generalizing loader seen rest with
  | nil =>
      change Prod.map _ _ ((finish accessor).run.run (loader, rest)) =
        Prod.map _ _ (Writer.counted ((Writer.flush accessor).run.run rest))
      rw [run_finish]
      rcases (Writer.flush accessor).run.run rest with ⟨outcome, writer, state⟩
      cases outcome <;> rfl
  | cons fact facts induction =>
      change Prod.map _ _ (((accept accessor fact >>= fun _ => acceptAll accessor facts) >>=
        fun _ => finish accessor).run.run (loader, rest)) = _
      rw [bind_assoc, run_bind]
      cases admitted : filter.admitsFact fact with
      | false =>
          obtain ⟨after, ran, knowsAfter, stats⟩ := knows.accept_refused admitted accessor rest
          simp only [List.filter_cons, admitted, Bool.false_eq_true, if_false, Filter.tally]
          rw [ran, ← stats]
          exact induction knowsAfter rest
      | true =>
          simp only [List.filter_cons, admitted, if_true, Fact.firsts, Filter.tally]
          by_cases before : fact.key ∈ seen
          · obtain ⟨after, ran, knowsAfter, stats⟩ :=
              knows.accept_repeated admitted before accessor rest
            rw [if_pos before, if_pos before, ran, ← stats]
            exact induction knowsAfter rest
          · obtain ⟨after, ran, knowsAfter, -⟩ :=
              knows.accept_new admitted before accessor rest
            rw [if_neg before, if_neg before, ran, List.map_cons, Writer.writeAll, run_bind]
            rcases (Writer.write accessor (.ofFact fact)).run.run rest with
              ⟨outcome, reached⟩
            cases outcome with
            | error failure => rfl
            | ok done => exact induction (knowsAfter.withStats _) reached

/-! ## The batches of a run -/

theorem run_executeNow (accessor : Accessor σ) (statement : Statement) {writer : Writer}
    (nothing : writer.waiting = []) (state : σ) :
    (Writer.executeNow accessor statement).run.run (writer, state) =
      match accessor.execute [statement] state with
      | (.error failure, reached) => (.error failure, writer, reached)
      | (.ok (), reached) =>
          (.ok (),
            { writer with statements := writer.statements + 1, batches := writer.batches + 1 },
            reached) := by
  unfold Writer.executeNow
  rw [run_bind, Writer.run_flush, if_pos (List.isEmpty_iff.mpr nothing)]
  exact Writer.run_send accessor [statement] writer state

theorem run_runFirst (accessor : Accessor σ) (first : List String) (loader : Loader)
    {writer : Writer} (nothing : writer.waiting = []) (state : σ) :
    ∃ after,
      (runFirst accessor first).run.run (loader, writer, state) =
        ((accessor.executeFirst first state).1, loader, after,
          (accessor.executeFirst first state).2) ∧
      ((accessor.executeFirst first state).1 = .ok () →
        after =
          { writer with
            statements := writer.statements + first.length
            batches := writer.batches + first.length }) := by
  induction first generalizing writer state with
  | nil => exact ⟨writer, rfl, fun _ => rfl⟩
  | cons text texts induction =>
      simp only [runFirst, Accessor.executeFirst]
      rw [run_bind, run_tryCatch, run_writing, run_executeNow accessor _ nothing]
      rw [show [{ text }] = Statement.alone text from rfl]
      rcases accessor.execute (Statement.alone text) state with ⟨outcome, reached⟩
      cases outcome with
      | error failure => exact ⟨writer, rfl, fun failed => nomatch failed⟩
      | ok done =>
          let counted : Writer :=
            { writer with statements := writer.statements + 1, batches := writer.batches + 1 }
          have stillNothing : counted.waiting = [] := nothing
          obtain ⟨after, ran, counts⟩ := induction stillNothing reached
          refine ⟨after, ran, fun succeeded => ?_⟩
          rw [counts succeeded]
          simp only [counted, List.length_cons, Nat.add_assoc, Nat.add_comm 1]

/-- The writer of a run in which the statements that come first have been executed. -/
def startedWriter (batchSize : Nat) (first : List String) : Writer :=
  { batchSize, statements := first.length, batches := first.length }

/-- A run starts with the statements that come first, and nothing then waits. -/
theorem run_start (accessor : Accessor σ) (filter : Filter) (batchSize : Nat)
    (first : List String) (state : σ) :
    ∃ stopped : Writer,
      (start accessor first).run.run ({ filter }, { batchSize }, state) =
        match accessor.executeFirst first state with
        | (.error failure, reached) => (.error failure, { filter }, stopped, reached)
        | (.ok (), reached) =>
            (.ok (), { filter, stats := { preStatements := first.length } },
              startedWriter batchSize first, reached) := by
  let fresh : Writer := { batchSize }
  have nothing : fresh.waiting = [] := rfl
  obtain ⟨after, ran, counts⟩ := run_runFirst accessor first { filter } nothing state
  refine ⟨after, ?_⟩
  unfold start
  rw [run_bind, ran]
  rcases ended : accessor.executeFirst first state with ⟨outcome, reached⟩
  rw [ended] at counts
  cases outcome with
  | error failure => rfl
  | ok done =>
      rw [counts rfl]
      simp only [fresh, Nat.zero_add, startedWriter]
      rfl

/-- The batches of the facts that a run writes, in order. -/
def portions (filter : Filter) (batchSize : Nat) (facts : List Fact) :
    List (List Statement) :=
  Writer.portions batchSize [] ((filter.written facts).map Statement.ofFact)

/-- The batches of a run, in order. -/
def plan (filter : Filter) (batchSize : Nat) (first : List String) (facts : List Fact) :
    List (List Statement) :=
  first.map Statement.alone ++ portions filter batchSize facts

/-- The counters of a run in which no batch fails. -/
def report (filter : Filter) (batchSize : Nat) (first : List String) (facts : List Fact) :
    RunStats :=
  { filter.tally [] facts { preStatements := first.length } with
    statements := first.length + (filter.written facts).length
    batches := (plan filter batchSize first facts).length }

/-- A run executes the statements that come first, and then the batches that the statements
of the written facts are cut into. -/
theorem load_eq (accessor : Accessor σ) (filter : Filter) (batchSize : Nat)
    (first : List String) (facts : List Fact) (state : σ) :
    load accessor filter batchSize first facts state =
      match accessor.executeFirst first state with
      | (.error failure, reached) => (.error failure, reached)
      | (.ok (), reached) =>
          Prod.map (Except.map fun _ => report filter batchSize first facts) id
            (accessor.executeAll (portions filter batchSize facts) reached) := by
  obtain ⟨stopped, started⟩ := run_start accessor filter batchSize first state
  change Prod.map id (fun reached => reached.2.2)
    ((start accessor first >>= fun _ =>
      acceptAll accessor facts >>= fun _ => finish accessor).run.run
        ({ filter }, { batchSize }, state)) = _
  rw [run_bind, started]
  rcases accessor.executeFirst first state with ⟨outcome, reached⟩
  cases outcome with
  | error failure => rfl
  | ok done =>
      let stats : RunStats := { preStatements := first.length }
      have loaded := run_acceptAll accessor facts (Knows.fresh filter stats)
        (startedWriter batchSize first, reached)
      rw [Writer.run_writeAll] at loaded
      refine loaded.trans ?_
      simp only [Writer.pending, List.reverse_nil, List.length_nil, List.length_map,
        List.length_append, Nat.zero_add, Filter.written, startedWriter, stats, report, plan, portions]
      rcases accessor.executeAll _ reached with ⟨outcome, final⟩
      cases outcome <;> rfl

/-- A run without statements that come first executes the batches that the statements of
the written facts are cut into. -/
theorem load_eq_executeAll (accessor : Accessor σ) (filter : Filter) (batchSize : Nat)
    (facts : List Fact) (state : σ) :
    Prod.map (Except.map fun _ => ()) id (load accessor filter batchSize [] facts state) =
      accessor.executeAll
        (Writer.portions batchSize [] ((filter.written facts).map Statement.ofFact))
        state := by
  rw [load_eq, ← portions]
  dsimp only [Accessor.executeFirst]
  rcases accessor.executeAll _ state with ⟨outcome, reached⟩
  cases outcome <;> rfl

end Loader

end CodeGraph
