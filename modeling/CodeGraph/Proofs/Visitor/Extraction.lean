import CodeGraph.Proofs.Node.Walk
import CodeGraph.Visitor.Extraction

/-!
# What an extraction collects

An extraction hands to the visitors the nodes that are reached and not stopped, and what
it collects is determined by what the visitors make of these nodes.  Over several trees
it collects what it would collect over each of them.
-/

namespace CodeGraph

namespace Visit

/-- The facts that remain of a visit: none if it failed. -/
def kept (visit : Visit) : List Fact :=
  match visit.outcome with
  | .ok _ => visit.facts
  | .error _ => []

def failed (visit : Visit) : Bool := !visit.outcome.isOk

/-- Does the visitor keep the walk from the children?  A visitor that fails does not. -/
def refuses (visit : Visit) : Bool :=
  match visit.outcome with
  | .ok descend => !descend
  | .error _ => false

end Visit

/-- What the visitor for a node makes of it, if there is one. -/
def Registry.visit? (registry : Registry) (node : Node) : Option Visit :=
  (registry.visitor? node.kind).map fun visitor => visitor.visit node

def WalkCounts.add (left right : WalkCounts) : WalkCounts :=
  { seen := left.seen + right.seen
    visited := left.visited + right.visited
    skipped := left.skipped + right.skipped
    faults := left.faults + right.faults }

namespace Extraction

/-- One extraction after another: facts in this order, and the sums of the counts. -/
def append (first second : Extraction) : Extraction :=
  { facts := first.facts ++ second.facts, counts := first.counts.add second.counts }

theorem append_assoc (first second third : Extraction) :
    (first.append second).append third = first.append (second.append third) := by
  simp [append, WalkCounts.add, Nat.add_assoc]

@[simp] theorem append_empty (extraction : Extraction) : extraction.append {} = extraction := by
  simp [append, WalkCounts.add]

@[simp] theorem empty_append (extraction : Extraction) :
    ({} : Extraction).append extraction = extraction := by
  simp [append, WalkCounts.add]

variable (registry : Registry) (stopped : KindSet)

/-- Does the walk go on below a node? -/
def descends (node : Node) : Bool :=
  !stopped.contains node.kind && !(registry.visit? node).any Visit.refuses

/-- The nodes that the walk over a tree enters, in preorder. -/
def entered (tree : Node) : List Occurrence := tree.reached (descends registry stopped)

/-- Those of the nodes entered that are handed to a visitor. -/
def handed (entered : List Occurrence) : List Occurrence :=
  entered.filter fun occurrence =>
    !stopped.contains occurrence.node.kind && (registry.visit? occurrence.node).isSome

/-- What the visitors make of the nodes entered. -/
def visits (entered : List Occurrence) : List Visit :=
  (handed registry stopped entered).filterMap fun occurrence => registry.visit? occurrence.node

/-- What is collected at the nodes entered. -/
def collected (entered : List Occurrence) : Extraction :=
  { facts := ((visits registry stopped entered).flatMap Visit.kept).toArray
    counts :=
      { seen := entered.length
        visited := (handed registry stopped entered).length
        skipped := (entered.filter fun occurrence => stopped.contains occurrence.node.kind).length
        faults := ((visits registry stopped entered).filter Visit.failed).length } }

theorem collected_append (first second : List Occurrence) :
    collected registry stopped (first ++ second) =
      (collected registry stopped first).append (collected registry stopped second) := by
  simp [collected, visits, handed, append, WalkCounts.add]

theorem record_eq (extraction : Extraction) (visit : Visit) :
    extraction.record visit =
      (!visit.refuses, extraction.append
        { facts := visit.kept.toArray
          counts := { visited := 1, faults := if visit.failed then 1 else 0 } }) := by
  rcases visit with ⟨facts, outcome⟩
  cases outcome with
  | ok descend =>
      have joined : extraction.facts ++ facts = extraction.facts ++ facts.toArray :=
        Array.toList_inj.mp (by simp)
      simp [record, append, WalkCounts.add, Visit.kept, Visit.refuses, Visit.failed, joined,
        Except.isOk, Except.toBool]
  | error failure =>
      simp [record, append, WalkCounts.add, Visit.kept, Visit.refuses, Visit.failed,
        Except.isOk, Except.toBool]

/-- Entering a node answers whether to descend, and collects what there is at the node. -/
theorem enter_eq (above : List Node) (node : Node) (extraction : Extraction) :
    enter registry stopped node extraction =
      (descends registry stopped node,
        extraction.append (collected registry stopped [⟨above, node⟩])) := by
  unfold enter
  by_cases stop : stopped.contains node.kind = true
  · simp [stop, descends, collected, visits, handed, append, WalkCounts.add]
  · cases found : registry.visitor? node.kind with
    | none =>
        have unvisited : registry.visit? node = none := by simp [Registry.visit?, found]
        simp [stop, unvisited, descends, collected, visits, handed, append, WalkCounts.add]
    | some visitor =>
        have visited : registry.visit? node = some (visitor.visit node) := by
          simp [Registry.visit?, found]
        simp only [record_eq]
        cases failed : (visitor.visit node).failed <;>
          simp [stop, visited, failed, descends, collected, visits, handed, append,
            WalkCounts.add]

theorem answers_walker (node : Node) (extraction : Extraction) :
    ((walker registry stopped).enter node extraction).1 = descends registry stopped node :=
  congrArg Prod.fst (enter_eq registry stopped [] node extraction)

theorem leave_walker (node : Node) (extraction : Extraction) :
    (walker registry stopped).leave node extraction = extraction := rfl

theorem add_eq (extraction : Extraction) (tree : Node) :
    extraction.add registry stopped tree =
      extraction.append (collected registry stopped (entered registry stopped tree)) := by
  unfold add
  rw [Node.walk_eq_foldl_reached (answers_walker registry stopped) (leave_walker registry stopped)]
  change _ = extraction.append
    (collected registry stopped (tree.reached (descends registry stopped)))
  induction tree.reached (descends registry stopped) generalizing extraction with
  | nil => exact (append_empty extraction).symm
  | cons first rest induction =>
      rw [List.foldl_cons, induction]
      change ((enter registry stopped first.node extraction).2).append _ = _
      rw [enter_eq registry stopped first.ancestors, append_assoc, ← collected_append]
      rfl

/-- Visitors are asked only about nodes that are entered and not stopped. -/
theorem collected_congr {other : Registry} {entered : List Occurrence}
    (agree : ∀ occurrence ∈ entered, stopped.contains occurrence.node.kind = false →
      other.visit? occurrence.node = registry.visit? occurrence.node) :
    collected other stopped entered = collected registry stopped entered := by
  have same : handed other stopped entered = handed registry stopped entered := by
    apply List.filter_congr
    intro occurrence member
    cases stop : stopped.contains occurrence.node.kind with
    | true => rfl
    | false => rw [agree occurrence member stop]
  have visitsSame : visits other stopped entered = visits registry stopped entered := by
    unfold visits
    rw [same]
    apply List.filterMap_congr
    intro occurrence member
    obtain ⟨reached, handed⟩ := List.mem_filter.mp member
    exact agree occurrence reached (by simp_all)
  unfold collected
  rw [same, visitsSame]

theorem add_congr {other : Registry} {tree : Node}
    (agree : ∀ occurrence ∈ entered registry stopped tree,
      stopped.contains occurrence.node.kind = false →
        other.visit? occurrence.node = registry.visit? occurrence.node)
    (extraction : Extraction) :
    extraction.add other stopped tree = extraction.add registry stopped tree := by
  have same : entered other stopped tree = entered registry stopped tree := by
    apply Node.reached_congr
    intro occurrence member
    unfold descends
    cases stop : stopped.contains occurrence.node.kind with
    | true => rfl
    | false => rw [agree occurrence member stop]
  rw [add_eq, add_eq, same, collected_congr registry stopped agree]

theorem descends_iff {node : Node} :
    descends registry stopped node = true ↔
      stopped.contains node.kind = false ∧
        ∀ visit, registry.visit? node = some visit → visit.outcome ≠ .ok false := by
  have refused : ∀ visit : Visit, visit.refuses = true ↔ visit.outcome = .ok false := by
    rintro ⟨facts, outcome⟩
    rcases outcome with failure | descend
    · simp [Visit.refuses]
    · cases descend <;> simp [Visit.refuses]
  cases found : registry.visit? node with
  | none => simp [descends, found]
  | some visit => simp [descends, found, ← refused]

/-- The walk enters exactly the nodes none of whose proper ancestors is stopped or refuses
its children, in preorder.  Visitors are handed those of them that are not stopped, and what
another node would be to a visitor makes no difference.  The facts are those of the visits
that succeed, in this order, and the counts are those of the nodes and the visits.  Over
several trees the facts are strung together and the counts added up. -/
theorem collects_reached (tree : Node) :
    let reached := entered registry stopped tree
    let called := handed registry stopped reached
    let visits := visits registry stopped reached
    let extraction := ({} : Extraction).add registry stopped tree
    (∀ occurrence, occurrence ∈ reached ↔ occurrence ∈ tree.occurrences ∧
      ∀ above ∈ occurrence.ancestors, stopped.contains above.kind = false ∧
        ∀ visit, registry.visit? above = some visit → visit.outcome ≠ .ok false) ∧
    tree.walk (walker registry stopped).watched ({}, []) =
      (extraction, reached.map (·.node)) ∧
    (∀ call ∈ called, ∀ node ∈ call.node :: call.ancestors,
      stopped.contains node.kind = false) ∧
    (∀ other : Registry,
      (∀ occurrence ∈ reached, stopped.contains occurrence.node.kind = false →
        other.visit? occurrence.node = registry.visit? occurrence.node) →
      ({} : Extraction).add other stopped tree = extraction) ∧
    extraction.facts.toList = visits.flatMap Visit.kept ∧
    extraction.counts =
      { seen := reached.length
        visited := called.length
        skipped := (reached.filter fun occurrence =>
          stopped.contains occurrence.node.kind).length
        faults := (visits.filter Visit.failed).length } ∧
    ∀ (trees : List Node) (start : Extraction),
      trees.foldl (fun extraction tree => extraction.add registry stopped tree) start =
        trees.foldl (fun extraction tree =>
          extraction.append (({} : Extraction).add registry stopped tree)) start := by
  intro reached called visits extraction
  have collects : extraction = collected registry stopped reached := by
    rw [← empty_append (collected registry stopped reached)]
    exact add_eq registry stopped {} tree
  have reaches : ∀ occurrence, occurrence ∈ reached ↔ occurrence ∈ tree.occurrences ∧
      ∀ above ∈ occurrence.ancestors, stopped.contains above.kind = false ∧
        ∀ visit, registry.visit? above = some visit → visit.outcome ≠ .ok false := by
    intro occurrence
    simp only [reached, entered, Node.mem_reached, descends_iff]
  refine ⟨reaches, ?_, ?_, ?_, ?_, ?_, ?_⟩
  · exact Node.walk_watched (answers_walker registry stopped) (leave_walker registry stopped)
      tree {} []
  · intro call member
    obtain ⟨reachedCall, handed⟩ := List.mem_filter.mp member
    rw [List.forall_mem_cons]
    exact ⟨by simp_all, fun above isAbove => (((reaches call).mp reachedCall).2 above isAbove).1⟩
  · exact fun other agree => add_congr registry stopped agree {}
  · rw [collects]
    rfl
  · rw [collects]
    rfl
  · intro trees start
    apply List.foldl_ext
    intro extraction tree _
    rw [add_eq, add_eq registry stopped {}, empty_append]

/-- A type with a comment, which is stopped, a method, whose visitor fails, and a block, whose
visitor refuses: the type in the comment and the type in the block are not entered, and it
makes no difference what a visitor would make of the comment. -/
theorem collects_reached_commented :
    let named (kind : Kind) (name : String) (children : List Node) : Node :=
      { kind, name := some name, children }
    let tree := named .typeDeclaration "Outer"
      [named .javadoc "comment" [named .typeDeclaration "InComment" []],
        named .methodDeclaration "method" [named .typeDeclaration "Inner" []],
        named .block "block" [named .typeDeclaration "InBlock" []]]
    let fact (name : String) : Fact := .node ⟨.type, name, OrderedMap.empty⟩
    let echo (descend : Bool) : Visitor :=
      ⟨"echo", fun node => ⟨[fact (node.name.getD "?")], .ok descend⟩⟩
    let faulty : Visitor :=
      ⟨"faulty", fun node => ⟨[fact "partial"], .error (.visitor node.kind "boom")⟩⟩
    let registry := ((Registry.empty.insert .typeDeclaration (echo true)).insert
      .methodDeclaration faulty).insert .block (echo false)
    let stopped := KindSet.empty.insert .javadoc
    let extraction := ({} : Extraction).add (registry.insert .javadoc (echo true)) stopped tree
    extraction.facts.toList = [fact "Outer", fact "Inner", fact "block"] ∧
      extraction.counts = { seen := 5, visited := 4, skipped := 1, faults := 1 } := by
  intro named tree fact echo faulty registry stopped extraction
  obtain ⟨-, -, -, asked, facts, counts, -⟩ := collects_reached registry stopped tree
  have agree : ∀ occurrence ∈ entered registry stopped tree,
      stopped.contains occurrence.node.kind = false →
        (registry.insert .javadoc (echo true)).visit? occurrence.node =
          registry.visit? occurrence.node := by
    intro occurrence _ running
    have different : occurrence.node.kind ≠ .javadoc := by
      intro same
      simp [stopped, same] at running
    simp [Registry.visit?, Registry.insert, different]
  have same : extraction = ({} : Extraction).add registry stopped tree := asked _ agree
  rw [same]
  exact ⟨facts.trans (by decide), counts.trans (by decide)⟩

end Extraction

end CodeGraph
