import CodeGraph.Proofs.Loader.Calls

/-!
# What a run writes and counts

Unless a batch fails, a run executes the statements that come first one by one, and then the
statements of the admitted facts, each key only the first time, cut into batches.  Every
fact is counted exactly once: as written, as refused or as a repetition.
-/

namespace CodeGraph

variable {σ : Type}

def Fact.isNode : Fact → Bool
  | .node _ => true
  | .edge _ => false

@[simp] theorem Fact.isNode_node (fact : NodeFact) : (Fact.node fact).isNode = true := rfl

@[simp] theorem Fact.isNode_edge (fact : EdgeFact) : (Fact.edge fact).isNode = false := rfl

/-- The facts whose keys have been seen or have come before. -/
def Fact.repeats (seen : List FactKey) : List Fact → List Fact
  | [] => []
  | fact :: facts =>
      if fact.key ∈ seen then fact :: repeats seen facts else repeats (fact.key :: seen) facts

/-- The admitted facts that a run does not write since their keys have come before. -/
def Filter.repeated (filter : Filter) (facts : List Fact) : List Fact :=
  Fact.repeats [] (facts.filter filter.admitsFact)

/-- The facts of which a name is not admitted. -/
def Filter.refused (filter : Filter) (facts : List Fact) : List Fact :=
  facts.filter fun fact => !filter.admitsFact fact

theorem Fact.length_firsts_add_length_repeats (seen : List FactKey) (facts : List Fact) :
    (firsts seen facts).length + (repeats seen facts).length = facts.length := by
  induction facts generalizing seen with
  | nil => rfl
  | cons fact facts induction =>
      rw [firsts, repeats]
      split
      · rw [List.length_cons, List.length_cons, ← induction seen, Nat.add_assoc]
      · rw [List.length_cons, List.length_cons, ← induction (fact.key :: seen)]
        exact Nat.add_right_comm _ _ _

/-- The counters are those of four kinds of facts that are told apart by the filter and by
the keys alone. -/
theorem Filter.tally_eq (filter : Filter) (seen : List FactKey) (facts : List Fact)
    (stats : RunStats) :
    filter.tally seen facts stats =
      let admitted := facts.filter filter.admitsFact
      { stats with
        nodesWritten := stats.nodesWritten + (Fact.firsts seen admitted).countP Fact.isNode
        nodesBlocked := stats.nodesBlocked + (filter.refused facts).countP Fact.isNode
        edgesWritten :=
          stats.edgesWritten + (Fact.firsts seen admitted).countP fun fact => !fact.isNode
        edgesDropped :=
          stats.edgesDropped + (filter.refused facts).countP fun fact => !fact.isNode
        duplicatesSkipped := stats.duplicatesSkipped + (Fact.repeats seen admitted).length } := by
  induction facts generalizing seen stats with
  | nil => rfl
  | cons fact facts induction =>
      rw [tally]
      cases admitted : filter.admitsFact fact with
      | false =>
          simp only [Bool.false_eq_true, if_false, induction, List.filter_cons, admitted,
            Bool.not_false, if_true, refused]
          cases fact <;>
            simp [Fact.countRefused, List.countP_cons, Nat.add_assoc, Nat.add_comm 1]
      | true =>
          simp only [if_true, induction, List.filter_cons, admitted, Bool.not_true,
            Bool.false_eq_true, if_false, Fact.firsts, Fact.repeats, refused]
          by_cases before : fact.key ∈ seen
          · simp [before, Nat.add_assoc, Nat.add_comm 1]
          · cases fact <;>
              simp [before, Fact.countWritten, List.countP_cons, Nat.add_assoc, Nat.add_comm 1]

/-- A list has two kinds of items. -/
theorem Fact.countP_add_countP_not (test : Fact → Bool) (facts : List Fact) :
    (facts.countP test + facts.countP fun fact => !test fact) = facts.length := by
  rw [List.length_eq_countP_add_countP test]
  simp

/-- Every fact is written, repeated or refused. -/
theorem Filter.length_classes (filter : Filter) (facts : List Fact) :
    (filter.written facts).length + (filter.repeated facts).length +
      (filter.refused facts).length = facts.length := by
  unfold written repeated refused
  rw [Fact.length_firsts_add_length_repeats, ← List.countP_eq_length_filter,
    ← List.countP_eq_length_filter]
  exact Fact.countP_add_countP_not filter.admitsFact facts

/-- Is the name among the parameters by which the statement finds nodes? -/
def Statement.Mentions (statement : Statement) (name : String) : Prop :=
  ∃ key, (key, Json.text name) ∈ statement.parameters.getD []

theorem Statement.mentions_ofFact {fact : Fact} {name : String} :
    (Statement.ofFact fact).Mentions name ↔ name ∈ fact.names := by
  cases fact <;>
    simp [Statement.Mentions, Statement.ofFact, Statement.mergeNode, Statement.mergeEdge,
      OrderedMap.toParameter, Fact.names, exists_or]

namespace Loader

theorem cuts_portions (filter : Filter) (batchSize : Nat) (facts : List Fact) :
    Writer.Cuts batchSize ((filter.written facts).map Statement.ofFact)
      (portions filter batchSize facts) :=
  Writer.cuts_portions batchSize [] _ id

/-- The statements of facts that a run executes are about admitted names. -/
theorem admits_of_mem_portions {filter : Filter} {batchSize : Nat} {facts : List Fact}
    {batch : List Statement} {statement : Statement} {name : String}
    (inRun : batch ∈ portions filter batchSize facts) (inBatch : statement ∈ batch)
    (mentions : statement.Mentions name) : filter.admits name = true := by
  have member : statement ∈ (filter.written facts).map Statement.ofFact := by
    rw [← (cuts_portions filter batchSize facts).flatten]
    exact List.mem_flatten.mpr ⟨batch, inRun, inBatch⟩
  obtain ⟨fact, written, rfl⟩ := List.mem_map.mp member
  have admitted := (Filter.mem_written written).2
  exact List.all_eq_true.mp admitted name (Statement.mentions_ofFact.mp mentions)

theorem report_eq (filter : Filter) (batchSize : Nat) (first : List String)
    (facts : List Fact) :
    report filter batchSize first facts =
      { preStatements := first.length
        nodesWritten := (filter.written facts).countP Fact.isNode
        nodesBlocked := (filter.refused facts).countP Fact.isNode
        edgesWritten := (filter.written facts).countP fun fact => !fact.isNode
        edgesDropped := (filter.refused facts).countP fun fact => !fact.isNode
        duplicatesSkipped := (filter.repeated facts).length
        statements := first.length + (filter.written facts).length
        batches := (plan filter batchSize first facts).length } := by
  rw [report, Filter.tally_eq]
  simp [Filter.written, Filter.repeated]

/-- A run of which no batch fails executes its first statements alone and in order, then the
statements of the facts that it writes, cut into batches in order, and its counters say
what has become of each fact. -/
theorem load_refines (accessor : Accessor σ) (filter : Filter) (batchSize : Nat)
    (first : List String) (facts : List Fact) (state : σ)
    (passed : ∀ call ∈ (load accessor.watched filter batchSize first facts (state, [])).2.2,
      call.succeeded = true) :
    ∃ stats reached calls batches,
      load accessor filter batchSize first facts state = (.ok stats, reached) ∧
      load accessor.watched filter batchSize first facts (state, []) =
        (.ok stats, reached, calls) ∧
      calls.map Call.batch = first.map Statement.alone ++ batches ∧
      Writer.Cuts batchSize ((filter.written facts).map Statement.ofFact) batches ∧
      (∀ batch ∈ batches, ∀ statement ∈ batch, ∀ name, statement.Mentions name →
        filter.admits name = true) ∧
      stats.preStatements = first.length ∧
      stats.nodesWritten = (filter.written facts).countP Fact.isNode ∧
      (stats.edgesWritten = (filter.written facts).countP fun fact => !fact.isNode) ∧
      stats.nodesBlocked = (filter.refused facts).countP Fact.isNode ∧
      (stats.edgesDropped = (filter.refused facts).countP fun fact => !fact.isNode) ∧
      stats.duplicatesSkipped = (filter.repeated facts).length ∧
      stats.nodesWritten + stats.edgesWritten + stats.nodesBlocked + stats.edgesDropped +
        stats.duplicatesSkipped = facts.length ∧
      stats.statements = stats.preStatements + stats.nodesWritten + stats.edgesWritten ∧
      stats.batches = calls.length := by
  obtain ⟨outcome, ended, reached, calls, plain, watching, handles, told⟩ :=
    handles_load accessor filter batchSize first facts state
  rw [watching] at passed
  obtain ⟨rfl, rfl⟩ := handles.eq_all passed
  have wanted : ended = .ok (report filter batchSize first facts) := told
  subst wanted
  refine ⟨report filter batchSize first facts, reached, _, portions filter batchSize facts,
    plain, watching, Call.map_batch_map_passed _, cuts_portions filter batchSize facts,
    fun _ inRun _ inBatch _ => admits_of_mem_portions inRun inBatch, ?_⟩
  have written := Fact.countP_add_countP_not Fact.isNode (filter.written facts)
  have refused := Fact.countP_add_countP_not Fact.isNode (filter.refused facts)
  have classes := filter.length_classes facts
  rw [report_eq]
  refine ⟨rfl, rfl, rfl, rfl, rfl, rfl, ?_, ?_, (List.length_map _).symm⟩
  · dsimp only
    omega
  · dsimp only
    omega

/-- A node comes twice, another one has a refused name, and a relationship leads to it. -/
theorem load_refines_blocking :
    let accessor := Accessor.recording fun _ => none
    let filter := (Filter.empty false).addBlock (.literal "java.")
    let first := ["MATCH (n) DETACH DELETE n"]
    let facts : List Fact :=
      [.node ⟨.method, "a.f", OrderedMap.empty⟩,
        .edge ⟨.invokes, "a.f", "java.g", OrderedMap.empty⟩,
        .node ⟨.method, "a.f", OrderedMap.ofList [("line", .int 3)]⟩,
        .node ⟨.method, "java.g", OrderedMap.empty⟩,
        .edge ⟨.invokes, "a.f", "b.g", OrderedMap.empty⟩]
    (∀ call ∈ (load accessor.watched filter 1 first facts ([], [])).2.2,
      call.succeeded = true) ∧
    ∃ stats reached,
      load accessor filter 1 first facts [] = (.ok stats, reached) ∧
      stats.preStatements = 1 ∧ stats.nodesWritten = 1 ∧ stats.edgesWritten = 1 ∧
      stats.nodesBlocked = 1 ∧ stats.edgesDropped = 1 ∧ stats.duplicatesSkipped = 1 ∧
      stats.statements = 3 := by
  intro accessor filter first facts
  have reliable : ∀ batch failure, ¬accessor.Fails batch failure := by
    rintro batch failure ⟨state, fails⟩
    cases fails
  have passed := succeeded_of_reliable reliable filter 1 first facts []
  obtain ⟨stats, reached, calls, batches, plain, -, -, -, -, alone, nodes, edges, blocked,
    dropped, repeated, -, statements, -⟩ :=
    load_refines accessor filter 1 first facts [] passed
  have oneNode : stats.nodesWritten = 1 := nodes.trans (by decide)
  have oneEdge : stats.edgesWritten = 1 := edges.trans (by decide)
  have oneFirst : stats.preStatements = 1 := alone
  refine ⟨passed, stats, reached, plain, oneFirst, oneNode, oneEdge, blocked.trans (by decide),
    dropped.trans (by decide), repeated.trans (by decide), ?_⟩
  rw [statements, oneFirst, oneNode, oneEdge]

end Loader

end CodeGraph
