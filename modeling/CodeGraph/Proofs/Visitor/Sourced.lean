import CodeGraph.Proofs.Node.Scope
import CodeGraph.Proofs.Visitor.Extraction

/-!
# Relationships after the declarations that they start at

Over a tree whose nodes know the types and methods around them, no standard visitor fails,
and every relationship comes after the node that it starts at, whatever kinds are stopped:
stopping a type or a method stops all that stands below it, and what is not stopped is
visited before what stands below it.
-/

namespace CodeGraph

/-! ## Facts that have been declared before -/

/-- Is there a node with this label and this name among the facts? -/
def Declared (facts : List Fact) (label : NodeLabel) (name : String) : Prop :=
  ∃ fact : NodeFact, .node fact ∈ facts ∧ fact.label = label ∧ fact.name = name

/-- A relationship finds declared what it starts at, and a declaration also what it declares. -/
def EdgeFact.Sourced (edge : EdgeFact) (known : List Fact) : Prop :=
  Declared known edge.relation.source edge.source ∧
    (edge.relation = .declares → Declared known .method edge.target)

/-- Every relationship of a sequence of facts, which come after known facts, is sourced. -/
def SourcedAfter (known facts : List Fact) : Prop :=
  ∀ early edge late, facts = early ++ .edge edge :: late → edge.Sourced (known ++ early)

theorem Declared.mono {facts more : List Fact} (subset : facts ⊆ more) {label : NodeLabel}
    {name : String} (declared : Declared facts label name) : Declared more label name := by
  obtain ⟨fact, member, same⟩ := declared
  exact ⟨fact, subset member, same⟩

theorem sourcedAfter_nil (known : List Fact) : SourcedAfter known [] :=
  fun _ _ _ cut => absurd cut (by simp)

/-- A node in front is known to the relationships that follow. -/
theorem SourcedAfter.cons_node {known edges : List Fact} {fact : NodeFact}
    (sourced : SourcedAfter (known ++ [.node fact]) edges) :
    SourcedAfter known (.node fact :: edges) := by
  intro early edge late cut
  rcases List.cons_eq_append_iff.mp cut with ⟨-, here⟩ | ⟨later, same, rest⟩
  · cases here
  · rw [same, ← List.singleton_append, ← List.append_assoc]
    exact sourced later edge late rest

/-- Relationships whose sources are known are sourced in any order. -/
theorem sourcedAfter_edges {known facts : List Fact}
    (each : ∀ fact ∈ facts, ∃ edge : EdgeFact, fact = .edge edge ∧ edge.Sourced known) :
    SourcedAfter known facts := by
  intro early edge late cut
  obtain ⟨same, made, sourced⟩ := each (.edge edge) (by simp [cut])
  cases made
  exact ⟨sourced.1.mono (List.subset_append_left known early),
    fun declares => (sourced.2 declares).mono (List.subset_append_left known early)⟩

/-- Facts that come in parts are sourced if each part is after those before it. -/
theorem sourcedAfter_flatMap {α : Type} {parts : α → List Fact} {list : List α}
    (each : ∀ before whole after, list = before ++ whole :: after →
      SourcedAfter (before.flatMap parts) (parts whole)) :
    SourcedAfter [] (list.flatMap parts) := by
  intro early edge late cut
  obtain ⟨before, whole, after, inner, rest, split, found, place⟩ :=
    Node.exists_part_of_flatMap cut
  rw [List.nil_append, place]
  exact each before whole after split inner edge rest found

/-! ## Trees whose nodes know their place -/

/-- Types have names, methods know their type, and calls know the method around them. -/
structure Occurrence.KnowsPlace (occurrence : Occurrence) : Prop where
  type : occurrence.node.kind.isType = true →
    ∃ qualified, occurrence.node.qualifiedName = some qualified ∧ qualified ≠ ""
  method : occurrence.node.kind = .methodDeclaration →
    ∃ owner qualified, occurrence.typeName? = some owner ∧ owner ≠ "" ∧
      occurrence.node.declaringType = some owner ∧
      occurrence.node.qualifiedName = some qualified ∧ qualified ≠ ""
  call : occurrence.node.kind.isCall = true →
    occurrence.node.enclosingMethod = occurrence.methodName?

theorem Registry.visitor?_standard (kind : Kind) :
    standard.visitor? kind =
      if kind.isType then some Visitor.typeDeclaration
      else if kind = .methodDeclaration then some Visitor.methodDeclaration
      else if kind.isCall then some Visitor.methodInvocation
      else none := by
  cases kind <;> rfl

namespace Extraction

/-- The facts that are collected at a node. -/
def factsAt (registry : Registry) (stopped : KindSet) (node : Node) : List Fact :=
  if stopped.contains node.kind then [] else ((registry.visit? node).map Visit.kept).getD []

theorem collected_facts (registry : Registry) (stopped : KindSet) (entered : List Occurrence) :
    (collected registry stopped entered).facts.toList =
      entered.flatMap fun occurrence => factsAt registry stopped occurrence.node := by
  change (visits registry stopped entered).flatMap Visit.kept = _
  induction entered with
  | nil => rfl
  | cons occurrence entered induction =>
      have split : visits registry stopped (occurrence :: entered) =
          visits registry stopped [occurrence] ++ visits registry stopped entered := by
        rw [← List.singleton_append]
        simp only [visits, handed, List.filter_append, List.filterMap_append]
      rw [split, List.flatMap_append, induction, List.flatMap_cons]
      congr 1
      cases stop : stopped.contains occurrence.node.kind <;>
        cases visited : registry.visit? occurrence.node <;>
          simp [visits, handed, factsAt, stop, visited]

/-! ## What the standard visitors collect at a node -/

variable {stopped : KindSet} {occurrence : Occurrence}

theorem visit_type (knows : occurrence.KnowsPlace) (isType : occurrence.node.kind.isType = true) :
    ∃ (fact : NodeFact) (edges : List EdgeFact), Registry.standard.visit? occurrence.node =
        some ⟨.node fact :: edges.map .edge, .ok true⟩ ∧
      fact.label = .type ∧ occurrence.node.qualifiedName = some fact.name ∧
      ∀ edge ∈ edges, edge.source = fact.name ∧
        (edge.relation = .inherits ∨ edge.relation = .implements) := by
  obtain ⟨qualified, named, present⟩ := knows.type isType
  obtain ⟨fact, edges, visited, label, same, each⟩ := Visitor.visit_typeDeclaration named present
  subst same
  refine ⟨fact, edges, ?_, label, named, each⟩
  rw [Registry.visit?, Registry.visitor?_standard, if_pos isType, Option.map_some, visited]

theorem visit_method (knows : occurrence.KnowsPlace)
    (method : occurrence.node.kind = .methodDeclaration) :
    ∃ (fact : NodeFact) (owner : String), Registry.standard.visit? occurrence.node =
        some ⟨[.node fact, .edge { relation := .declares, source := owner, target := fact.name }],
          .ok true⟩ ∧
      fact.label = .method ∧ occurrence.node.qualifiedName = some fact.name ∧
      occurrence.typeName? = some owner := by
  obtain ⟨owner, qualified, around, ownerPresent, owned, named, present⟩ := knows.method method
  obtain ⟨fact, visited, label, same⟩ :=
    Visitor.visit_methodDeclaration named present owned ownerPresent
  subst same
  refine ⟨fact, owner, ?_, label, named, around⟩
  rw [Registry.visit?, Registry.visitor?_standard, if_neg (by rw [method]; exact Bool.false_ne_true),
    if_pos method, Option.map_some, visited]

theorem visit_call (knows : occurrence.KnowsPlace) (isCall : occurrence.node.kind.isCall = true) :
    ∃ visit, Registry.standard.visit? occurrence.node = some visit ∧ visit.outcome = .ok true ∧
      ∀ fact ∈ visit.facts, ∃ edge : EdgeFact, fact = .edge edge ∧ edge.relation = .invokes ∧
        occurrence.methodName? = some edge.source := by
  have closed := Kind.opensScope_of_isCall isCall
  obtain ⟨passed, each⟩ := Visitor.visit_methodInvocation occurrence.node
  rw [knows.call isCall] at each
  refine ⟨_, ?_, passed, each⟩
  rw [Registry.visit?, Registry.visitor?_standard,
    if_neg (by simp [Kind.isType_of_not_opensScope closed]),
    if_neg (Kind.ne_method_of_not_opensScope closed), if_pos isCall, Option.map_some]

/-- A node of a remaining kind is not visited. -/
theorem visit_other (noType : occurrence.node.kind.isType = false)
    (noMethod : occurrence.node.kind ≠ .methodDeclaration)
    (noCall : occurrence.node.kind.isCall = false) :
    Registry.standard.visit? occurrence.node = none := by
  rw [Registry.visit?, Registry.visitor?_standard, if_neg (by simp [noType]), if_neg noMethod,
    if_neg (by simp [noCall]), Option.map_none]

theorem not_failed (knows : occurrence.KnowsPlace) {visit : Visit}
    (visited : Registry.standard.visit? occurrence.node = some visit) :
    visit.failed = false := by
  have passed : visit.outcome = .ok true := by
    by_cases isType : occurrence.node.kind.isType = true
    · obtain ⟨fact, edges, found, -⟩ := visit_type knows isType
      cases visited.symm.trans found
      rfl
    · by_cases method : occurrence.node.kind = .methodDeclaration
      · obtain ⟨fact, owner, found, -⟩ := visit_method knows method
        cases visited.symm.trans found
        rfl
      · by_cases isCall : occurrence.node.kind.isCall = true
        · obtain ⟨other, found, passed, -⟩ := visit_call knows isCall
          cases visited.symm.trans found
          exact passed
        · rw [visit_other (by simpa using isType) method (by simpa using isCall)] at visited
          cases visited
  unfold Visit.failed
  rw [passed]
  rfl

theorem factsAt_of_visit {visit : Visit} {node : Node}
    (running : stopped.contains node.kind = false)
    (visited : Registry.standard.visit? node = some visit) (passed : visit.outcome = .ok true) :
    factsAt .standard stopped node = visit.facts := by
  rw [factsAt, running, if_neg Bool.false_ne_true, visited]
  change visit.kept = visit.facts
  unfold Visit.kept
  rw [passed]

/-! ## What has been collected before a node -/

/-- What the extraction has collected at some nodes. -/
def factsBefore (stopped : KindSet) (before : List Occurrence) : List Fact :=
  before.flatMap fun occurrence => factsAt .standard stopped occurrence.node

theorem declared_type {before : List Occurrence} (member : occurrence ∈ before)
    (knows : occurrence.KnowsPlace) (running : stopped.contains occurrence.node.kind = false)
    (isType : occurrence.node.kind.isType = true) {name : String}
    (named : occurrence.node.qualifiedName = some name) :
    Declared (factsBefore stopped before) .type name := by
  obtain ⟨fact, edges, visited, label, same, -⟩ := visit_type knows isType
  refine ⟨fact, List.mem_flatMap.mpr ⟨occurrence, member, ?_⟩, label,
    Option.some.inj (same.symm.trans named)⟩
  rw [factsAt_of_visit running visited rfl]
  exact List.mem_cons_self

theorem declared_method {before : List Occurrence} (member : occurrence ∈ before)
    (knows : occurrence.KnowsPlace) (running : stopped.contains occurrence.node.kind = false)
    (method : occurrence.node.kind = .methodDeclaration) {name : String}
    (named : occurrence.node.qualifiedName = some name) :
    Declared (factsBefore stopped before) .method name := by
  obtain ⟨fact, owner, visited, label, same, -⟩ := visit_method knows method
  refine ⟨fact, List.mem_flatMap.mpr ⟨occurrence, member, ?_⟩, label,
    Option.some.inj (same.symm.trans named)⟩
  rw [factsAt_of_visit running visited rfl]
  exact List.mem_cons_self

/-- What a node gives is sourced by the types and methods around it, if they came before. -/
theorem sourcedAfter_factsAt {known : List Fact} (knows : occurrence.KnowsPlace)
    (types : ∀ name, occurrence.typeName? = some name → Declared known .type name)
    (methods : ∀ name, occurrence.methodName? = some name → Declared known .method name) :
    SourcedAfter known (factsAt .standard stopped occurrence.node) := by
  cases running : stopped.contains occurrence.node.kind with
  | true =>
      rw [factsAt, running, if_pos rfl]
      exact sourcedAfter_nil known
  | false =>
    by_cases isType : occurrence.node.kind.isType = true
    · obtain ⟨fact, edges, visited, label, -, each⟩ := visit_type knows isType
      rw [factsAt_of_visit running visited rfl]
      have here : Declared (known ++ [.node fact]) .type fact.name :=
        ⟨fact, by simp, label, rfl⟩
      refine .cons_node (sourcedAfter_edges fun made member => ?_)
      obtain ⟨edge, isEdge, same⟩ := List.mem_map.mp member
      subst same
      obtain ⟨starts, inherits | implements⟩ := each edge isEdge
      · exact ⟨edge, rfl, by rw [starts, inherits]; exact here, by rw [inherits]; nofun⟩
      · exact ⟨edge, rfl, by rw [starts, implements]; exact here, by rw [implements]; nofun⟩
    · by_cases method : occurrence.node.kind = .methodDeclaration
      · obtain ⟨fact, owner, visited, label, -, around⟩ := visit_method knows method
        rw [factsAt_of_visit running visited rfl]
        refine .cons_node (sourcedAfter_edges fun made member => ?_)
        refine ⟨_, List.mem_singleton.mp member, ?_, fun _ => ⟨fact, by simp, label, rfl⟩⟩
        exact (types owner around).mono (List.subset_append_left known _)
      · by_cases isCall : occurrence.node.kind.isCall = true
        · obtain ⟨visit, visited, passed, each⟩ := visit_call knows isCall
          rw [factsAt_of_visit running visited passed]
          refine sourcedAfter_edges fun made member => ?_
          obtain ⟨edge, same, invokes, around⟩ := each made member
          refine ⟨edge, same, ?_, by rw [invokes]; nofun⟩
          rw [invokes]
          exact methods edge.source around
        · rw [factsAt, running, if_neg Bool.false_ne_true,
            visit_other (by simpa using isType) method (by simpa using isCall)]
          exact sourcedAfter_nil known

/-! ## What is collected over a tree -/

/-- No visitor has failed, and every relationship comes after what it starts at. -/
structure Sourced (extraction : Extraction) : Prop where
  faults : extraction.counts.faults = 0
  facts : SourcedAfter [] extraction.facts.toList

/-- Over a tree whose nodes know their place, whatever is stopped, what the standard visitors
collect is sourced. -/
theorem sourced_of_knowsPlace {tree : Node}
    (knows : ∀ occurrence ∈ tree.occurrences, occurrence.KnowsPlace) (stopped : KindSet) :
    (({} : Extraction).add .standard stopped tree).Sourced := by
  let extraction := ({} : Extraction).add .standard stopped tree
  let reached := entered .standard stopped tree
  have collects : extraction = collected .standard stopped reached := by
    rw [← empty_append (collected .standard stopped reached)]
    exact add_eq .standard stopped {} tree
  have known : ∀ occurrence ∈ reached, occurrence.KnowsPlace := fun occurrence member =>
    knows occurrence (Node.mem_reached.mp member).1
  have running : ∀ occurrence ∈ reached, ∀ above ∈ occurrence.ancestors,
      stopped.contains above.kind = false := fun occurrence member above isAbove =>
    ((descends_iff .standard stopped).mp ((Node.mem_reached.mp member).2 above isAbove)).1
  constructor
  · change extraction.counts.faults = 0
    rw [collects]
    change ((visits .standard stopped reached).filter Visit.failed).length = 0
    rw [List.length_eq_zero_iff, List.filter_eq_nil_iff]
    intro visit member
    obtain ⟨occurrence, handed, visited⟩ := List.mem_filterMap.mp member
    rw [not_failed (known occurrence (List.mem_of_mem_filter handed)) visited]
    exact Bool.false_ne_true
  · change SourcedAfter [] extraction.facts.toList
    rw [collects, collected_facts]
    refine sourcedAfter_flatMap fun before occurrence after cut => ?_
    have member : occurrence ∈ reached := by simp [cut]
    -- what a relationship starts at is an ancestor: reached before, and not stopped
    have above := Node.reached_ancestors cut
    have earlier : ∀ node ∈ before, node ∈ reached := fun node early => by simp [cut, early]
    refine sourcedAfter_factsAt (known occurrence member) (fun name found => ?_)
      fun name found => ?_
    · obtain ⟨type, nearest, named⟩ := Option.bind_eq_some_iff.mp found
      obtain ⟨isAbove, isType⟩ := Node.mem_of_nearestType? nearest
      obtain ⟨outer, early, same⟩ := above type isAbove
      subst same
      exact declared_type early (known outer (earlier outer early))
        (running occurrence member _ isAbove) isType named
    · obtain ⟨method, nearest, named⟩ := Option.bind_eq_some_iff.mp found
      obtain ⟨isAbove, isMethod⟩ := Node.mem_of_nearestMethod? nearest
      obtain ⟨outer, early, same⟩ := above method isAbove
      subst same
      exact declared_method early (known outer (earlier outer early))
        (running occurrence member _ isAbove) isMethod named

end Extraction

end CodeGraph
