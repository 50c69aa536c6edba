import CodeGraph.Loader
import CodeGraph.Proofs.Store.Write

/-!
# Settled facts

A fact is settled in a store when merging would find its node or its relationship and all
its attributes are set there.  Writing a fact settles it, writing a settled fact changes
nothing, and a settled fact stays settled when a fact with another key is written.
-/

namespace CodeGraph

namespace Store

/-- Have all attributes been set? -/
def Carries (properties : Properties) (attributes : Attributes) : Prop :=
  ∀ entry ∈ attributes.toProperties.entries, properties.find? entry.1 = some entry.2

/-- Writing the fact would find all of it. -/
def Settled (store : Store) : Fact → Prop
  | .node fact =>
      ∃ cell node, store.index[(fact.label.name, fact.name)]? = some cell ∧
        store.node? cell = some node ∧ Carries node.properties fact.attributes
  | .edge fact =>
      ∃ source target cell edge,
        store.index[(fact.relation.source.name, fact.source)]? = some source ∧
        store.index[(fact.relation.target.name, fact.target)]? = some target ∧
        store.findEdge? source target fact.relation.name OrderedMap.empty = some cell ∧
        store.edges.get? cell = some edge ∧ Carries edge.properties fact.attributes

variable {store : Store}

theorem carries_overlay (properties : Properties) (attributes : Attributes) :
    Carries (Properties.overlay properties attributes.toProperties) attributes :=
  fun _ member => Properties.find?_overlay_toProperties member

theorem overlay_of_carries {properties : Properties} {attributes : Attributes}
    (carries : Carries properties attributes) :
    Properties.overlay properties attributes.toProperties = properties := by
  apply Properties.overlay_eq_self
  intro entry member
  exact ⟨OrderedMap.ne_null_of_mem_toProperties member, carries entry member⟩

/-! ## Writing a settled fact -/

theorem setNode_of_carries {cell : Nat} {node : StoredNode} {attributes : Attributes}
    (live : store.node? cell = some node) (carries : Carries node.properties attributes) :
    store.setNode cell attributes.toProperties = store := by
  have same := overlay_of_carries carries
  have nodes : (store.nodes.modify cell fun _ => node) = store.nodes := by
    apply Arena.modify_eq_self
    intro value found
    have here : store.nodes.get? cell = some node := live
    rw [here] at found
    exact Option.some.inj found
  unfold setNode
  rw [live]
  dsimp only
  rw [same, nodes, if_pos rfl]

theorem setEdge_of_carries {cell : Nat} {edge : StoredEdge} {attributes : Attributes}
    (live : store.edges.get? cell = some edge) (carries : Carries edge.properties attributes) :
    store.setEdge cell attributes.toProperties = store := by
  have edges : (store.edges.modify cell fun edge =>
      { edge with properties :=
        Properties.overlay edge.properties attributes.toProperties }) = store.edges := by
    apply Arena.modify_eq_self
    intro value found
    rw [live] at found
    cases found
    rw [overlay_of_carries carries]
  unfold setEdge
  rw [edges]

theorem Sound.write_of_settled (sound : Sound store) {fact : Fact}
    (settled : Settled store fact) : store.write fact = store := by
  cases fact with
  | node fact =>
      obtain ⟨cell, node, indexed, live, carries⟩ := settled
      have merged : store.mergeNode fact.label.name (Properties.named fact.name) =
          (cell, store) := by
        rw [sound.mergeNode_named, indexed]
      change store.writeNode fact = store
      unfold Store.writeNode
      rw [merged]
      exact setNode_of_carries live carries
  | edge fact =>
      obtain ⟨source, target, cell, edge, sourceIndexed, targetIndexed, found, live, carries⟩ :=
        settled
      have first : store.mergeNode fact.relation.source.name (Properties.named fact.source) =
          (source, store) := by
        rw [sound.mergeNode_named, sourceIndexed]
      have second : store.mergeNode fact.relation.target.name (Properties.named fact.target) =
          (target, store) := by
        rw [sound.mergeNode_named, targetIndexed]
      have joined : store.mergeEdge source target fact.relation.name OrderedMap.empty =
          (cell, store) := by
        unfold Store.mergeEdge
        rw [found]
      change store.writeEdge fact = store
      unfold Store.writeEdge
      rw [first]
      dsimp only
      rw [second]
      dsimp only
      rw [joined]
      exact setEdge_of_carries live carries

/-! ## Writing settles -/

theorem Sound.settled_writeNode (sound : Sound store) {fact : NodeFact}
    (plain : keyProperty ∉ fact.attributes.keys) :
    Settled (store.writeNode fact) (.node fact) := by
  obtain ⟨cell, node, between, -, -, indexed, live, written⟩ := sound.writeNode_eq fact
  let changed : StoredNode :=
    { node with properties :=
      Properties.overlay node.properties fact.attributes.toProperties }
  rw [written]
  refine ⟨cell, changed, ?_, ?_, carries_overlay node.properties fact.attributes⟩
  · rw [index_setNode_of_plain live plain]
    exact indexed
  · rw [node?_setNode, if_pos rfl, live]
    rfl

theorem Sound.settled_writeEdge (sound : Sound store) (fact : EdgeFact) :
    Settled (store.writeEdge fact) (.edge fact) := by
  obtain ⟨source, target, between, betweenSound, -, sourceIndexed, targetIndexed, written⟩ :=
    sound.writeEdge_eq fact
  have joined := betweenSound.joined source target fact.relation.name
  obtain ⟨edge, live, -⟩ := joined.joins
  let changed : StoredEdge :=
    { edge with properties :=
      Properties.overlay edge.properties fact.attributes.toProperties }
  rw [written]
  refine ⟨source, target, _, changed, ?_, ?_, (findEdge?_setEdge _ _ _ _ _ _).trans joined.found,
    ?_, carries_overlay edge.properties fact.attributes⟩
  · rw [index_setEdge, joined.index]
    exact sourceIndexed
  · rw [index_setEdge, joined.index]
    exact targetIndexed
  · rw [get?_setEdge, if_pos rfl, live]
    rfl

/-! ## Writing another fact -/

theorem Settled.of_grows {fact : Fact} {after : Store} (settled : Settled store fact)
    (grows : Grows store after) : Settled after fact := by
  cases fact with
  | node fact =>
      obtain ⟨cell, node, indexed, live, carries⟩ := settled
      exact ⟨cell, node, grows.index _ _ indexed, grows.nodes _ _ live, carries⟩
  | edge fact =>
      obtain ⟨source, target, cell, edge, sourceIndexed, targetIndexed, found, live, carries⟩ :=
        settled
      refine ⟨source, target, cell, edge, grows.index _ _ sourceIndexed,
        grows.index _ _ targetIndexed, ?_, ?_, carries⟩
      · rw [findEdge?_congr grows.edges grows.recent]
        exact found
      · rw [grows.edges]
        exact live

theorem Settled.writeNode {other : Fact} {fact : NodeFact} (settled : Settled store other)
    (sound : Sound store) (plain : keyProperty ∉ fact.attributes.keys)
    (different : other.key ≠ (Fact.node fact).key) :
    Settled (store.writeNode fact) other := by
  obtain ⟨cell, node, between, betweenSound, grows, indexed, live, written⟩ :=
    sound.writeNode_eq fact
  have before := settled.of_grows grows
  have index := index_setNode_of_plain live plain
  rw [written]
  cases other with
  | node other =>
      obtain ⟨place, stored, otherIndexed, otherLive, carries⟩ := before
      have elsewhere : place ≠ cell := by
        intro same
        subst place
        have keys := betweenSound.indexed.eq_of_same_cell otherIndexed indexed
        obtain ⟨label, name⟩ := Prod.mk.inj keys
        apply different
        simp only [Fact.key, NodeLabel.name_injective label, name]
      refine ⟨place, stored, ?_, ?_, carries⟩
      · rw [index]
        exact otherIndexed
      · rw [node?_setNode, if_neg elsewhere]
        exact otherLive
  | edge other =>
      obtain ⟨source, target, place, edge, sourceIndexed, targetIndexed, found, edgeLive,
        carries⟩ := before
      refine ⟨source, target, place, edge, ?_, ?_, ?_, ?_, carries⟩
      · rw [index]
        exact sourceIndexed
      · rw [index]
        exact targetIndexed
      · rw [findEdge?_congr (edges_setNode _ _ _) (recent_setNode _ _ _)]
        exact found
      · rw [edges_setNode]
        exact edgeLive

theorem Settled.writeEdge {other : Fact} {fact : EdgeFact} (settled : Settled store other)
    (sound : Sound store) (different : other.key ≠ (Fact.edge fact).key) :
    Settled (store.writeEdge fact) other := by
  obtain ⟨source, target, between, betweenSound, grows, sourceIndexed, targetIndexed, written⟩ :=
    sound.writeEdge_eq fact
  have before := settled.of_grows grows
  have joined := betweenSound.joined source target fact.relation.name
  obtain ⟨joining, joiningLive, joiningSource, joiningTarget, joiningType⟩ := joined.joins
  rw [written]
  cases other with
  | node other =>
      obtain ⟨place, stored, otherIndexed, otherLive, carries⟩ := before
      refine ⟨place, stored, ?_, ?_, carries⟩
      · rw [index_setEdge, joined.index]
        exact otherIndexed
      · rw [node?_setEdge, node?, joined.nodes]
        exact otherLive
  | edge other =>
      obtain ⟨start, finish, place, edge, startIndexed, finishIndexed, found, edgeLive,
        carries⟩ := before
      have apart : ¬(source = start ∧ target = finish ∧
          fact.relation.name = other.relation.name) := by
        rintro ⟨rfl, rfl, relation⟩
        have sameRelation := Relation.name_injective relation
        have sources := betweenSound.indexed.eq_of_same_cell sourceIndexed startIndexed
        have targets := betweenSound.indexed.eq_of_same_cell targetIndexed finishIndexed
        apply different
        simp only [Fact.key, sameRelation, (Prod.mk.inj sources).2, (Prod.mk.inj targets).2]
      have elsewhere : place ≠ (between.mergeEdge source target fact.relation.name
          OrderedMap.empty).1 := by
        intro same
        obtain ⟨old, oldLive, oldSource, oldTarget, oldType⟩ := betweenSound.of_findEdge? found
        have kept := joined.edges place old oldLive
        rw [same, joiningLive] at kept
        cases kept
        exact apart ⟨joiningSource.symm.trans oldSource, joiningTarget.symm.trans oldTarget,
          joiningType.symm.trans oldType⟩
      refine ⟨start, finish, place, edge, ?_, ?_, ?_, ?_, carries⟩
      · rw [index_setEdge, joined.index]
        exact startIndexed
      · rw [index_setEdge, joined.index]
        exact finishIndexed
      · rw [findEdge?_setEdge, joined.others _ _ _ apart]
        exact found
      · rw [get?_setEdge, if_neg elsewhere]
        exact joined.edges place edge edgeLive

end Store

end CodeGraph
