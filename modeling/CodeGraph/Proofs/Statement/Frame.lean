import CodeGraph.Proofs.Statement.OfFact
import CodeGraph.Proofs.Store.Cells
import CodeGraph.Proofs.Store.Reachable

/-!
# What the statement of a fact changes

The statement of a fact runs to its end on every store, whatever is in the names and in the
attributes of the fact.  It finds or makes the nodes of the fact and the relationship between
them, sets the attributes on what the fact is about, and leaves everything else as it is.
-/

namespace CodeGraph

theorem OrderedMap.find?_toProperties (attributes : Attributes) (key : String) :
    attributes.toProperties.find? key = (attributes.find? key).map Scalar.toProperty := by
  cases found : attributes.find? key with
  | none =>
      have absent : key ∉ attributes.keys := Entries.find?_eq_none_iff.mp found
      simp [find?_toProperties_of_not_mem absent]
  | some value =>
      apply find?_of_mem
      rw [entries_toProperties]
      apply List.mem_map.mpr
      exact ⟨(key, value), (List.mergeSort_perm _ _).mem_iff.mpr (mem_of_find? found), rfl⟩

namespace Properties

/-- Attributes have been set over properties: each attribute has its value, and all else is as
it was. -/
structure Overlaid (attributes : Attributes) (before after : Properties) : Prop where
  eq_overlay : after = overlay before attributes.toProperties
  find?_eq : ∀ key, after.find? key =
    ((attributes.find? key).map Scalar.toProperty).or (before.find? key)

theorem overlaid_overlay (attributes : Attributes) (properties : Properties) :
    Overlaid attributes properties (overlay properties attributes.toProperties) := by
  constructor
  · rfl
  · intro key
    rw [find?_overlay, OrderedMap.find?_toProperties]
    cases attributes.find? key with
    | none => rfl
    | some value => simp [value.toProperty_ne_null]

/-- Attributes other than the key leave the key alone. -/
theorem Overlaid.find?_keyProperty {attributes : Attributes} {before after : Properties}
    (overlaid : Overlaid attributes before after) (plain : keyProperty ∉ attributes.keys) :
    after.find? keyProperty = before.find? keyProperty := by
  rw [overlaid.eq_overlay, find?_keyProperty_overlay before plain]

end Properties

namespace Store

variable {store after : Store}

/-! ## What merging finds or makes -/

/-- The node that merging on a name leads to: the one that the index gives for the name, or
else a node with only the name in a vacant cell. -/
structure Provides (store : Store) (label name : String) (cell : Nat) (node : StoredNode) :
    Prop where
  label_eq : node.label = label
  named : node.properties.find? keyProperty = some (.text name)
  held : store.index[(label, name)]? = some cell ∧ store.node? cell = some node ∨
    store.index[(label, name)]? = none ∧ store.node? cell = none ∧
      node.properties = Properties.named name

/-- The relationship that merging between two nodes leads to: one of the type that is there, or
else one without properties in a vacant cell. -/
structure Joins (store : Store) (source target : Nat) (type : String) (place : Nat)
    (edge : StoredEdge) : Prop where
  source_eq : edge.source = source
  target_eq : edge.target = target
  type_eq : edge.type = type
  held : store.edges.get? place = some edge ∨
    store.edges.get? place = none ∧ edge.properties = OrderedMap.empty

/-- Merging a node on its name touches the cell of the node and the index entry of the name. -/
structure Fetches (store : Store) (label name : String) (cell : Nat) (node : StoredNode)
    (after : Store) : Prop where
  provides : Provides store label name cell node
  sound : Sound after
  here : after.node? cell = some node
  others : ∀ other, other ≠ cell → after.node? other = store.node? other
  edges : after.edges = store.edges
  indexed : after.index[(label, name)]? = some cell
  index : ∀ key : String × String, key ≠ (label, name) →
    after.index[key]? = store.index[key]?

theorem Sound.fetches_mergeNode (sound : Sound store) (label name : String) :
    ∃ node, Fetches store label name (store.mergeNode label (Properties.named name)).1 node
      (store.mergeNode label (Properties.named name)).2 := by
  have merged := sound.merged label name
  rw [sound.mergeNode_named] at merged ⊢
  cases found : store.index[(label, name)]? with
  | some cell =>
      obtain ⟨node, live, keyed⟩ := sound.indexed (label, name) cell found
      obtain ⟨sameLabel, sameName⟩ := StoredNode.key?_eq_some_iff.mp keyed
      refine ⟨node, ?_⟩
      constructor
      · exact ⟨sameLabel, sameName, .inl ⟨found, live⟩⟩
      · exact sound
      · exact live
      · intro other different
        rfl
      · rfl
      · exact found
      · intro key different
        rfl
  | none =>
      rw [found] at merged
      have vacant : store.node? store.nodes.next = none := Arena.get?_next store.nodes
      refine ⟨⟨label, Properties.named name⟩, ?_⟩
      constructor
      · exact ⟨rfl, rfl, .inr ⟨found, vacant, rfl⟩⟩
      · exact merged.sound
      · rw [node?_createNode]
        exact if_pos rfl
      · intro other different
        rw [node?_createNode]
        exact if_neg different
      · rfl
      · exact merged.indexed
      · intro key different
        have keyed : StoredNode.key? ⟨label, Properties.named name⟩ = some (label, name) := rfl
        rw [index_createNode, getElem?_claimKey, keyed]
        apply if_neg
        intro claimed
        exact different (Option.some.inj claimed.1).symm

/-- A node that is there stays as it is. -/
theorem Fetches.node?_of_node? {label name : String} {cell other : Nat} {node kept : StoredNode}
    (fetches : Fetches store label name cell node after)
    (live : store.node? other = some kept) : after.node? other = some kept := by
  by_cases same : other = cell
  · subst other
    rcases fetches.provides.held with ⟨-, held⟩ | ⟨-, vacant, -⟩
    · rw [fetches.here, ← held, live]
    · cases vacant.symm.trans live
  · rw [fetches.others other same, live]

/-- A node that is provided after another one has been merged was provided before. -/
theorem Fetches.provides_of_provides {label name otherLabel otherName : String}
    {cell other : Nat} {node otherNode : StoredNode}
    (fetches : Fetches store label name cell node after)
    (provides : Provides after otherLabel otherName other otherNode) :
    Provides store otherLabel otherName other otherNode := by
  by_cases same : (otherLabel, otherName) = (label, name)
  · cases same
    -- The second merge finds what the first one has found or made.
    rcases provides.held with ⟨found, live⟩ | ⟨missing, -⟩
    · obtain rfl := Option.some.inj (found.symm.trans fetches.indexed)
      obtain rfl := Option.some.inj (live.symm.trans fetches.here)
      exact fetches.provides
    · cases missing.symm.trans fetches.indexed
  · have index := fetches.index _ same
    have elsewhere : ∀ kept, after.index[(otherLabel, otherName)]? = some kept →
        kept ≠ cell := by
      intro kept found equal
      apply same
      exact fetches.sound.indexed.eq_of_same_cell found (equal ▸ fetches.indexed)
    refine ⟨provides.label_eq, provides.named, ?_⟩
    rcases provides.held with ⟨found, live⟩ | ⟨missing, vacant, bare⟩
    · left
      rw [fetches.others other (elsewhere other found)] at live
      exact ⟨index ▸ found, live⟩
    · right
      have different : other ≠ cell := by
        intro equal
        rw [equal, fetches.here] at vacant
        cases vacant
      rw [fetches.others other different] at vacant
      exact ⟨index ▸ missing, vacant, bare⟩

/-- Merging a relationship touches only the cell of the relationship. -/
structure Links (store : Store) (source target : Nat) (type : String) (place : Nat)
    (edge : StoredEdge) (after : Store) : Prop where
  joins : Joins store source target type place edge
  here : after.edges.get? place = some edge
  others : ∀ other, other ≠ place → after.edges.get? other = store.edges.get? other
  nodes : after.nodes = store.nodes
  index : after.index = store.index

theorem Sound.links_mergeEdge (sound : Sound store) (source target : Nat) (type : String) :
    ∃ edge, Links store source target type
      (store.mergeEdge source target type OrderedMap.empty).1 edge
      (store.mergeEdge source target type OrderedMap.empty).2 := by
  unfold Store.mergeEdge
  cases found : store.findEdge? source target type OrderedMap.empty with
  | some place =>
      obtain ⟨edge, live, sameSource, sameTarget, sameType⟩ := sound.of_findEdge? found
      refine ⟨edge, ?_⟩
      constructor
      · exact ⟨sameSource, sameTarget, sameType, .inl live⟩
      · exact live
      · intro other different
        rfl
      · rfl
      · rfl
  | none =>
      have vacant : store.edges.get? store.edges.next = none := Arena.get?_next store.edges
      refine ⟨⟨source, target, type, OrderedMap.empty⟩, ?_⟩
      constructor
      · exact ⟨rfl, rfl, rfl, .inr ⟨vacant, rfl⟩⟩
      · rw [get?_createEdge]
        exact if_pos rfl
      · intro other different
        rw [get?_createEdge]
        exact if_neg different
      · rfl
      · rfl

/-! ## Writing a fact -/

/-- A node has been written: its attributes are set, and every other node and every
relationship is as it was. -/
structure WroteNode (store : Store) (fact : NodeFact) (cell : Nat) (node : StoredNode)
    (after : Store) : Prop where
  provides : Provides store fact.label.name fact.name cell node
  here : ∃ properties, after.node? cell = some ⟨fact.label.name, properties⟩ ∧
    properties.find? keyProperty = some (.text fact.name) ∧
    Properties.Overlaid fact.attributes node.properties properties
  others : ∀ other, other ≠ cell → after.node? other = store.node? other
  edges : ∀ place, after.edges.get? place = store.edges.get? place

/-- A relationship has been written: both its ends are there as they were, or with only their
names, its attributes are set, and every other node and every other relationship is as it
was. -/
structure WroteEdge (store : Store) (fact : EdgeFact) (source target : Nat)
    (start finish : StoredNode) (place : Nat) (edge : StoredEdge) (after : Store) : Prop where
  providesSource : Provides store fact.relation.source.name fact.source source start
  providesTarget : Provides store fact.relation.target.name fact.target target finish
  joins : Joins store source target fact.relation.name place edge
  start : after.node? source = some start
  finish : after.node? target = some finish
  here : ∃ properties, after.edges.get? place =
      some ⟨source, target, fact.relation.name, properties⟩ ∧
    Properties.Overlaid fact.attributes edge.properties properties
  others : ∀ other, other ≠ source → other ≠ target → after.node? other = store.node? other
  otherEdges : ∀ other, other ≠ place → after.edges.get? other = store.edges.get? other

/-- A fact has been written, and nothing else has been touched. -/
def Wrote (store : Store) : Fact → Store → Prop
  | .node fact, after => ∃ cell node, WroteNode store fact cell node after
  | .edge fact, after => ∃ source target start finish place edge,
      WroteEdge store fact source target start finish place edge after

theorem Sound.wroteNode (sound : Sound store) {fact : NodeFact}
    (plain : keyProperty ∉ fact.attributes.keys) :
    ∃ cell node, WroteNode store fact cell node (store.writeNode fact) := by
  obtain ⟨node, fetches⟩ := sound.fetches_mergeNode fact.label.name fact.name
  refine ⟨_, node, fetches.provides, ?_, ?_, ?_⟩
  · have overlaid := Properties.overlaid_overlay fact.attributes node.properties
    refine ⟨_, ?_, ?_, overlaid⟩
    · rw [Store.writeNode, node?_setNode, if_pos rfl, fetches.here, Option.map_some,
        fetches.provides.label_eq]
    · rw [overlaid.find?_keyProperty plain]
      exact fetches.provides.named
  · intro other different
    rw [Store.writeNode, node?_setNode, if_neg different]
    exact fetches.others other different
  · intro place
    rw [Store.writeNode, edges_setNode, fetches.edges]

theorem Sound.wroteEdge (sound : Sound store) (fact : EdgeFact) :
    ∃ source target start finish place edge,
      WroteEdge store fact source target start finish place edge (store.writeEdge fact) := by
  obtain ⟨start, first⟩ := sound.fetches_mergeNode fact.relation.source.name fact.source
  rcases withSource : store.mergeNode fact.relation.source.name (Properties.named fact.source)
    with ⟨source, one⟩
  rw [withSource] at first
  obtain ⟨finish, second⟩ :=
    first.sound.fetches_mergeNode fact.relation.target.name fact.target
  rcases withTarget : one.mergeNode fact.relation.target.name (Properties.named fact.target)
    with ⟨target, both⟩
  rw [withTarget] at second
  obtain ⟨edge, links⟩ := second.sound.links_mergeEdge source target fact.relation.name
  rcases withEdge : both.mergeEdge source target fact.relation.name OrderedMap.empty
    with ⟨place, linked⟩
  rw [withEdge] at links
  have written : store.writeEdge fact = linked.setEdge place fact.attributes.toProperties := by
    simp only [Store.writeEdge, withSource, withTarget, withEdge]
  have nodes : (store.writeEdge fact).node? = both.node? := by
    rw [written, node?_setEdge]
    unfold node?
    rw [links.nodes]
  have oldEdges : both.edges = store.edges := second.edges.trans first.edges
  refine ⟨source, target, start, finish, place, edge, ?_⟩
  constructor
  · exact first.provides
  · exact first.provides_of_provides second.provides
  · have held := links.joins.held
    rw [oldEdges] at held
    exact ⟨links.joins.source_eq, links.joins.target_eq, links.joins.type_eq, held⟩
  · rw [nodes]
    exact second.node?_of_node? first.here
  · rw [nodes]
    exact second.here
  · refine ⟨_, ?_, Properties.overlaid_overlay fact.attributes edge.properties⟩
    rw [written, get?_setEdge, if_pos rfl, links.here, Option.map_some, links.joins.source_eq,
      links.joins.target_eq, links.joins.type_eq]
  · intro other notSource notTarget
    rw [nodes, second.others other notTarget, first.others other notSource]
  · intro other different
    rw [written, get?_setEdge, if_neg different, links.others other different, oldEdges]

theorem Sound.wrote (sound : Sound store) {fact : Fact}
    (plain : keyProperty ∉ fact.attributes.keys) : Wrote store fact (store.write fact) := by
  cases fact with
  | node fact => exact sound.wroteNode plain
  | edge fact => exact sound.wroteEdge fact

end Store

/-- Whatever a fact holds, its statement can be prepared, cannot fail and runs to its end, and
then the fact has been written and nothing else has been touched. -/
theorem Store.Reachable.wrote_of_ofFact {store : Store} (reachable : Reachable store)
    {fact : Fact} (plain : keyProperty ∉ fact.attributes.keys) :
    ∃ prepared counts after,
      (Statement.ofFact fact).prepare = .ok prepared ∧ prepared.isFallible = false ∧
      prepared.run store = (.ok counts, after) ∧ Wrote store fact after := by
  obtain ⟨counts, ran⟩ := Statement.run_bound fact store
  exact ⟨Statement.bound fact, counts, store.write fact, Statement.prepare_ofFact fact,
    Statement.isFallible_bound fact, ran, reachable.sound.wrote plain⟩

/-- Quotes, a backslash and signs of the statement language in a name and in attributes: the
node comes beside the two nodes and the relationship of the store, which stay. -/
theorem Store.wrote_of_ofFact_quoted :
    let attributes : Attributes :=
      OrderedMap.ofList [("a 'key'", .text "\x7b$props\x7d"), ("", .int 3)]
    let fact : NodeFact := ⟨.type, "it's \"$b\" \\", attributes⟩
    Reachable rekeyed ∧ keyProperty ∉ attributes.keys ∧
    ∃ prepared counts after,
      (Statement.ofFact (.node fact)).prepare = .ok prepared ∧ prepared.isFallible = false ∧
      prepared.run rekeyed = (.ok counts, after) ∧
      (∃ cell properties, after.node? cell = some ⟨"Type", properties⟩ ∧
        properties.find? keyProperty = some (.text fact.name)) ∧
      after.node? 0 = rekeyed.node? 0 ∧ after.node? 1 = rekeyed.node? 1 ∧
      after.edges.get? 0 = rekeyed.edges.get? 0 := by
  intro attributes fact
  have plain : keyProperty ∉ (Fact.node fact).attributes.keys := by decide
  obtain ⟨prepared, counts, after, prepares, infallible, ran, cell, node, wrote⟩ :=
    reachable_rekeyed.wrote_of_ofFact plain
  obtain ⟨properties, here, named, -⟩ := wrote.here
  have otherName : ∀ old, rekeyed.node? cell = some old →
      old.properties.find? keyProperty = some (.text fact.name) := by
    intro old live
    rcases wrote.provides.held with ⟨-, held⟩ | ⟨-, vacant, -⟩
    · rw [held] at live
      cases live
      exact wrote.provides.named
    · cases vacant.symm.trans live
  have notFirst : 0 ≠ cell := by
    intro same
    subst cell
    exact absurd (otherName _ rfl) (by decide)
  have notSecond : 1 ≠ cell := by
    intro same
    subst cell
    exact absurd (otherName _ rfl) (by decide)
  exact ⟨reachable_rekeyed, plain, prepared, counts, after, prepares, infallible, ran,
    ⟨cell, properties, here, named⟩, wrote.others 0 notFirst, wrote.others 1 notSecond,
    wrote.edges 0⟩

end CodeGraph
