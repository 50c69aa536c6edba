import CodeGraph.Proofs.Sequencing
import CodeGraph.Proofs.Store.Write
import CodeGraph.Statement.Run

/-!
# The statements of facts

The text of a statement depends on nothing of its fact but the label or the relation, so
that there are six texts in all; names and attributes travel in the parameters.
-/

namespace CodeGraph

namespace Statement

/-- The clauses of a statement that writes a node. -/
def nodeClauses (label : NodeLabel) : List Clause :=
  [.merge (.node ⟨some "n", some label.name, [(keyProperty, .parameter keyProperty)]⟩),
    .setAll "n" (.parameter "props")]

/-- The clauses of a statement that writes a relationship. -/
def edgeClauses (relation : Relation) : List Clause :=
  [.merge (.node ⟨some "a", some relation.source.name, [(keyProperty, .parameter "from")]⟩),
    .merge (.node ⟨some "b", some relation.target.name, [(keyProperty, .parameter "to")]⟩),
    .merge (.path ⟨some "a", none, []⟩ ⟨some "r", relation.name, []⟩ ⟨some "b", none, []⟩),
    .setAll "r" (.parameter "props")]

private def nodeText : NodeLabel → String
  | .type => "MERGE (n:Type \x7bqualified_name: $qualified_name\x7d) SET n += $props"
  | .method => "MERGE (n:Method \x7bqualified_name: $qualified_name\x7d) SET n += $props"

private def edgeText : Relation → String
  | .declares =>
      "MERGE (a:Type \x7bqualified_name: $from\x7d) MERGE (b:Method \x7bqualified_name: $to\x7d) MERGE (a)-[r:DECLARES]->(b) SET r += $props"
  | .invokes =>
      "MERGE (a:Method \x7bqualified_name: $from\x7d) MERGE (b:Method \x7bqualified_name: $to\x7d) MERGE (a)-[r:INVOKES]->(b) SET r += $props"
  | .inherits =>
      "MERGE (a:Type \x7bqualified_name: $from\x7d) MERGE (b:Type \x7bqualified_name: $to\x7d) MERGE (a)-[r:EXTENDS]->(b) SET r += $props"
  | .implements =>
      "MERGE (a:Type \x7bqualified_name: $from\x7d) MERGE (b:Type \x7bqualified_name: $to\x7d) MERGE (a)-[r:IMPLEMENTS]->(b) SET r += $props"

private theorem text_mergeNode (fact : NodeFact) :
    (mergeNode fact).text = nodeText fact.label := by
  have closed : ∀ label, (mergeNode ⟨label, "", OrderedMap.empty⟩).text = nodeText label := by
    intro label
    cases label <;> decide +kernel
  exact closed fact.label

private theorem text_mergeEdge (fact : EdgeFact) :
    (mergeEdge fact).text = edgeText fact.relation := by
  have closed : ∀ relation,
      (mergeEdge ⟨relation, "", "", OrderedMap.empty⟩).text = edgeText relation := by
    intro relation
    cases relation <;> decide +kernel
  exact closed fact.relation

theorem ofText_mergeNode (fact : NodeFact) :
    Clause.ofText (mergeNode fact).text = .ok (nodeClauses fact.label) := by
  rw [text_mergeNode]
  cases fact.label <;>
    · unfold Clause.ofText
      simp only [nodeText, String.reduceToList]
      rfl

theorem ofText_mergeEdge (fact : EdgeFact) :
    Clause.ofText (mergeEdge fact).text = .ok (edgeClauses fact.relation) := by
  rw [text_mergeEdge]
  cases fact.relation with
  | declares =>
      unfold Clause.ofText
      simp only [edgeText, String.reduceToList]
      rfl
  | invokes =>
      unfold Clause.ofText
      simp only [edgeText, String.reduceToList]
      rfl
  | inherits =>
      unfold Clause.ofText
      simp only [edgeText, String.reduceToList]
      rfl
  | implements =>
      unfold Clause.ofText
      simp only [edgeText, String.reduceToList]
      rfl

end Statement

/-! ## Binding the parameters -/

theorem Scalar.ofJson?_toJson (value : Scalar) :
    PropertyValue.ofJson? value.toJson = some value.toProperty := by
  cases value with
  | bool value => rfl
  | text value => rfl
  | int value =>
      have fits : PropertyValue.fitsInt64 value.toInt = true := by
        have lower := value.minValue_le_toInt
        have upper := value.toInt_le
        unfold PropertyValue.fitsInt64
        rw [decide_eq_true lower, decide_eq_true upper]
        rfl
      simp [Scalar.toJson, Scalar.toProperty, PropertyValue.ofJson?, fits]

theorem Binding.mapEntries_toJson (text name : String) (entries : List (String × Scalar)) :
    Binding.mapEntries text name (entries.map fun entry => (entry.1, entry.2.toJson)) =
      .ok (entries.map fun entry => (entry.1, entry.2.toProperty)) := by
  induction entries with
  | nil => rfl
  | cons entry entries induction =>
      rw [List.map_cons, Binding.mapEntries, Scalar.ofJson?_toJson]
      dsimp only
      rw [induction]
      rfl

/-- Sorting by key does not look at the values. -/
theorem OrderedMap.toParameter_eq (attributes : Attributes) :
    attributes.toParameter =
      .map ((Json.sortByKey attributes.entries).map fun entry =>
        (entry.1, entry.2.toJson)) := by
  unfold OrderedMap.toParameter Json.sortByKey
  rw [List.map_mergeSort]
  intro left _ right _
  rfl

theorem Binding.map_toParameter {text name : String} {parameters : Parameters}
    {attributes : Attributes}
    (given : Json.find? name parameters = some attributes.toParameter) :
    Binding.map text parameters (.parameter name) = .ok attributes.toProperties := by
  have found : Binding.parameter parameters name = .ok attributes.toParameter := by
    unfold Binding.parameter
    rw [given]
  unfold Binding.map
  dsimp only
  rw [found, OrderedMap.toParameter_eq]
  change (Binding.mapEntries text name _ >>= _) = _
  rw [Binding.mapEntries_toJson]
  rfl

namespace Statement

/-- The bound statement that writes a node. -/
def boundNode (fact : NodeFact) : BoundStatement :=
  ⟨(mergeNode fact).text,
    [.node .merge ⟨some "n", some fact.label.name, .named fact.name⟩,
      .set "n" fact.attributes.toProperties]⟩

/-- The bound statement that writes a relationship. -/
def boundEdge (fact : EdgeFact) : BoundStatement :=
  ⟨(mergeEdge fact).text,
    [.node .merge ⟨some "a", some fact.relation.source.name, .named fact.source⟩,
      .node .merge ⟨some "b", some fact.relation.target.name, .named fact.target⟩,
      .path .merge ⟨some "a", none, OrderedMap.empty⟩
        ⟨some "r", fact.relation.name, OrderedMap.empty⟩
        ⟨some "b", none, OrderedMap.empty⟩,
      .set "r" fact.attributes.toProperties]⟩

/-- Preparing succeeds when each clause has a bound clause and these pass the check. -/
theorem prepare_eq_ok {statement : Statement} {clauses : List Clause}
    {bound : List BoundClause} {sorts : VariableSorts}
    (read : Clause.ofText statement.text = .ok clauses)
    (values : clauses.mapM (Binding.clause statement.text (statement.parameters.getD [])) =
      .ok bound)
    (checked : BoundStatement.check ⟨statement.text, bound⟩ = .ok sorts) :
    statement.prepare = .ok ⟨statement.text, bound⟩ := by
  unfold prepare
  rw [read]
  change (clauses.mapM (Binding.clause statement.text (statement.parameters.getD [])) >>= _ :
    Except Failure BoundStatement) = _
  rw [values]
  change (BoundStatement.check ⟨statement.text, bound⟩ >>= _ : Except Failure _) = _
  rw [checked]
  rfl

theorem prepare_mergeNode (fact : NodeFact) :
    (mergeNode fact).prepare = .ok (boundNode fact) := by
  have setting : Binding.clause (mergeNode fact).text ((mergeNode fact).parameters.getD [])
      (.setAll "n" (.parameter "props")) = .ok (.set "n" fact.attributes.toProperties) := by
    unfold Binding.clause
    dsimp only
    rw [Binding.map_toParameter rfl]
    rfl
  have values : (nodeClauses fact.label).mapM
      (Binding.clause (mergeNode fact).text ((mergeNode fact).parameters.getD [])) =
        .ok (boundNode fact).clauses := by
    unfold nodeClauses
    rw [List.mapM_cons, List.mapM_cons, setting]
    rfl
  exact prepare_eq_ok (ofText_mergeNode fact) values rfl

theorem prepare_mergeEdge (fact : EdgeFact) :
    (mergeEdge fact).prepare = .ok (boundEdge fact) := by
  have setting : Binding.clause (mergeEdge fact).text ((mergeEdge fact).parameters.getD [])
      (.setAll "r" (.parameter "props")) = .ok (.set "r" fact.attributes.toProperties) := by
    unfold Binding.clause
    dsimp only
    rw [Binding.map_toParameter rfl]
    rfl
  have values : (edgeClauses fact.relation).mapM
      (Binding.clause (mergeEdge fact).text ((mergeEdge fact).parameters.getD [])) =
        .ok (boundEdge fact).clauses := by
    unfold edgeClauses
    rw [List.mapM_cons, List.mapM_cons, List.mapM_cons, List.mapM_cons, setting]
    rfl
  exact prepare_eq_ok (ofText_mergeEdge fact) values rfl

/-! ## Running -/

theorem run_boundNode (fact : NodeFact) (store : Store) :
    (boundNode fact).run store = (.ok { nodes := 1 }, store.writeNode fact) := by
  rfl

theorem run_boundEdge (fact : EdgeFact) (store : Store) :
    (boundEdge fact).run store =
      (.ok { nodes := 2, relationships := 1 }, store.writeEdge fact) := by
  rfl

/-- The bound statement that writes a fact. -/
def bound : Fact → BoundStatement
  | .node fact => boundNode fact
  | .edge fact => boundEdge fact

theorem isFallible_bound (fact : Fact) : (bound fact).isFallible = false := by
  cases fact <;> rfl

theorem prepare_ofFact (fact : Fact) : (ofFact fact).prepare = .ok (bound fact) := by
  cases fact with
  | node fact => exact prepare_mergeNode fact
  | edge fact => exact prepare_mergeEdge fact

theorem mapM_prepare_ofFact (facts : List Fact) :
    (facts.map ofFact).mapM prepare = .ok (facts.map bound) := by
  induction facts with
  | nil => rfl
  | cons fact facts induction =>
      rw [List.map_cons, List.mapM_cons, prepare_ofFact, induction]
      rfl

theorem run_bound (fact : Fact) (store : Store) :
    ∃ counts, (bound fact).run store = (.ok counts, store.write fact) := by
  cases fact with
  | node fact => exact ⟨_, run_boundNode fact store⟩
  | edge fact => exact ⟨_, run_boundEdge fact store⟩

end Statement

end CodeGraph
