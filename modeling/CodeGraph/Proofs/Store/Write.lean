import CodeGraph.Proofs.Store.Properties
import CodeGraph.Proofs.Store.Sound

/-!
# Writing facts to a store

What the statement of a fact does to a store, without the statement: the nodes of the
fact are merged on their keys, and so is a relationship between them, and then the
attributes are set.
-/

namespace CodeGraph

theorem NodeLabel.name_injective {left right : NodeLabel} (same : left.name = right.name) :
    left = right := by
  cases left <;> cases right <;> simp [NodeLabel.name] at same ⊢

theorem Relation.name_injective {left right : Relation} (same : left.name = right.name) :
    left = right := by
  cases left <;> cases right <;> simp [Relation.name] at same ⊢

/-- The attributes of a fact. -/
def Fact.attributes : Fact → Attributes
  | .node fact => fact.attributes
  | .edge fact => fact.attributes

namespace Store

/-! ## Merging a node on its key -/

variable {store : Store}

/-- In a sound store, the node with only a key that merging finds is the indexed one. -/
theorem Sound.findNode?_named (sound : Sound store) (label name : String) :
    store.findNode? label (Properties.named name) = store.index[(label, name)]? := by
  have key : Properties.key? (Properties.named name) = some name := rfl
  unfold findNode?
  rw [key]
  dsimp only
  cases found : store.index[(label, name)]? with
  | none => rfl
  | some cell =>
      obtain ⟨node, live, keyed⟩ := sound.indexed (label, name) cell found
      obtain ⟨sameLabel, sameName⟩ := StoredNode.key?_eq_some_iff.mp keyed
      have fits : node.matchesPattern (some label) (Properties.named name) = true := by
        have only : (Properties.named name).entries = [(keyProperty, .text name)] := rfl
        simp [StoredNode.matchesPattern, Properties.includes, only, sameLabel, sameName,
          PropertyValue.agrees]
      have held : store.node? cell = some node := live
      dsimp only
      rw [held]
      exact if_pos fits

theorem Sound.mergeNode_named (sound : Sound store) (label name : String) :
    store.mergeNode label (Properties.named name) =
      match store.index[(label, name)]? with
      | some cell => (cell, store)
      | none => store.createNode label (Properties.named name) := by
  cases indexed : store.index[(label, name)]? with
  | none =>
      have missing := (sound.findNode?_named label name).trans indexed
      simp only [Store.mergeNode, missing]
  | some cell =>
      have found := (sound.findNode?_named label name).trans indexed
      simp only [Store.mergeNode, found]

/-- Nothing is lost but nodes may have come. -/
structure Grows (before after : Store) : Prop where
  index : ∀ (key : String × String) (cell : Nat), before.index[key]? = some cell →
    after.index[key]? = some cell
  nodes : ∀ cell node, before.node? cell = some node → after.node? cell = some node
  edges : after.edges = before.edges
  recent : after.recent = before.recent

theorem Grows.refl (store : Store) : Grows store store where
  index := fun _ _ found => found
  nodes := fun _ _ live => live
  edges := rfl
  recent := rfl

theorem Grows.trans {first second third : Store} (start : Grows first second)
    (rest : Grows second third) : Grows first third where
  index := fun key cell found => rest.index key cell (start.index key cell found)
  nodes := fun cell node live => rest.nodes cell node (start.nodes cell node live)
  edges := rest.edges.trans start.edges
  recent := rest.recent.trans start.recent

theorem grows_createNode (store : Store) (label : String) (properties : Properties) :
    Grows store (store.createNode label properties).2 where
  index := by
    intro key cell found
    rw [index_createNode, getElem?_claimKey, found, if_neg]
    intro claimed
    cases claimed.2
  nodes := fun _ _ live => node?_createNode_of_node? label properties live
  edges := rfl
  recent := rfl

/-- What merging a node on its key leads to. -/
structure Merged (store : Store) (label name : String) (cell : Nat) (after : Store) : Prop where
  sound : Sound after
  grows : Grows store after
  indexed : after.index[(label, name)]? = some cell

theorem Sound.merged (sound : Sound store) (label name : String) :
    Merged store label name (store.mergeNode label (Properties.named name)).1
      (store.mergeNode label (Properties.named name)).2 := by
  have after := sound.mergeNode label (Properties.named name)
  rw [sound.mergeNode_named] at after ⊢
  cases found : store.index[(label, name)]? with
  | some cell => exact ⟨sound, Grows.refl store, found⟩
  | none =>
      have key : StoredNode.key? ⟨label, Properties.named name⟩ = some (label, name) := rfl
      rw [found] at after
      refine ⟨after, grows_createNode store label _, ?_⟩
      rw [index_createNode, getElem?_claimKey, key, found, if_pos ⟨rfl, rfl⟩]
      rfl

/-- Attributes other than the key leave the index alone. -/
theorem index_setNode_of_plain {cell : Nat} {node : StoredNode} {attributes : Attributes}
    (live : store.node? cell = some node) (plain : keyProperty ∉ attributes.keys) :
    (store.setNode cell attributes.toProperties).index = store.index := by
  rw [index_setNode _ live]
  apply if_pos
  unfold StoredNode.key? Properties.key?
  dsimp only
  rw [Properties.find?_keyProperty_overlay _ plain]

/-! ## Merging a relationship -/

private theorem findEdge?_eq_head? (store : Store) (source target : Nat) (type : String) :
    store.findEdge? source target type OrderedMap.empty =
      (store.edgesWhere fun edge =>
        edge.source == source && edge.target == target && edge.type == type).head? := by
  have same : ∀ edge : StoredEdge,
      (edge.source == source && edge.target == target && edge.type == type &&
        Properties.includes edge.properties OrderedMap.empty) =
      (edge.source == source && edge.target == target && edge.type == type) :=
    fun edge => Bool.and_true _
  unfold findEdge?
  simp only [same]

theorem Sound.of_findEdge? (sound : Sound store) {source target cell : Nat} {type : String}
    (found : store.findEdge? source target type OrderedMap.empty = some cell) :
    ∃ edge, store.edges.get? cell = some edge ∧ edge.source = source ∧
      edge.target = target ∧ edge.type = type := by
  rw [findEdge?_eq_head?] at found
  obtain ⟨edge, live, joins⟩ := sound.mem_edgesWhere.mp (List.mem_of_mem_head? found)
  simp only [Bool.and_eq_true, beq_iff_eq] at joins
  exact ⟨edge, live, joins.1.1, joins.1.2, joins.2⟩

theorem Sound.of_findEdge?_eq_none (sound : Sound store) {source target cell : Nat}
    {type : String} {edge : StoredEdge}
    (missing : store.findEdge? source target type OrderedMap.empty = none)
    (live : store.edges.get? cell = some edge) :
    ¬(edge.source = source ∧ edge.target = target ∧ edge.type = type) := by
  rw [findEdge?_eq_head?, List.head?_eq_none_iff] at missing
  intro joins
  have member : cell ∈ store.edgesWhere fun edge =>
      edge.source == source && edge.target == target && edge.type == type :=
    sound.mem_edgesWhere.mpr ⟨edge, live, by simp [joins]⟩
  rw [missing] at member
  cases member

theorem findEdge?_congr {other : Store} (edges : other.edges = store.edges)
    (recent : other.recent = store.recent) (source target : Nat) (type : String)
    (properties : Properties) :
    other.findEdge? source target type properties =
      store.findEdge? source target type properties := by
  unfold findEdge? edgesWhere
  rw [edges, recent]

/-- A new relationship is found before every older one between the same nodes. -/
theorem Sound.findEdge?_createEdge (sound : Sound store) (source target : Nat)
    (type : String) (properties : Properties) (start finish : Nat) (sought : String) :
    (store.createEdge source target type properties).2.findEdge? start finish sought
        OrderedMap.empty =
      if source = start ∧ target = finish ∧ type = sought then some store.edges.next
      else store.findEdge? start finish sought OrderedMap.empty := by
  rw [findEdge?_eq_head?, findEdge?_eq_head?]
  have older : store.recent.filter (fun cell =>
      ((store.edges.insert ⟨source, target, type, properties⟩).get? cell).any fun edge =>
        edge.source == start && edge.target == finish && edge.type == sought) =
      store.edgesWhere fun edge =>
        edge.source == start && edge.target == finish && edge.type == sought := by
    apply List.filter_congr
    intro cell member
    obtain ⟨edge, live⟩ := Option.isSome_iff_exists.mp ((sound.mem_recent cell).mp member)
    rw [Arena.get?_insert_of_get? _ live, live]
  change (List.filter
    (fun cell =>
      ((store.edges.insert ⟨source, target, type, properties⟩).get? cell).any fun edge =>
        edge.source == start && edge.target == finish && edge.type == sought)
    (store.edges.next :: store.recent)).head? = _
  rw [List.filter_cons, Arena.get?_insert_next]
  simp only [Option.any_some, Bool.and_eq_true, beq_iff_eq, and_assoc]
  split
  · rfl
  · exact congrArg List.head? older

theorem findEdge?_setEdge (store : Store) (cell : Nat) (changes : Properties)
    (source target : Nat) (type : String) :
    (store.setEdge cell changes).findEdge? source target type OrderedMap.empty =
      store.findEdge? source target type OrderedMap.empty := by
  rw [findEdge?_eq_head?, findEdge?_eq_head?]
  refine congrArg List.head? (List.filter_congr ?_)
  intro other _
  rw [get?_setEdge]
  split
  · cases store.edges.get? other <;> rfl
  · rfl

/-- What merging a relationship leads to. -/
structure Joined (store : Store) (source target : Nat) (type : String) (cell : Nat)
    (after : Store) : Prop where
  nodes : after.nodes = store.nodes
  index : after.index = store.index
  edges : ∀ other edge, store.edges.get? other = some edge →
    after.edges.get? other = some edge
  found : after.findEdge? source target type OrderedMap.empty = some cell
  joins : ∃ edge, after.edges.get? cell = some edge ∧ edge.source = source ∧
    edge.target = target ∧ edge.type = type
  others : ∀ start finish sought, ¬(source = start ∧ target = finish ∧ type = sought) →
    after.findEdge? start finish sought OrderedMap.empty =
      store.findEdge? start finish sought OrderedMap.empty

theorem Sound.joined (sound : Sound store) (source target : Nat) (type : String) :
    Joined store source target type
      (store.mergeEdge source target type OrderedMap.empty).1
      (store.mergeEdge source target type OrderedMap.empty).2 := by
  unfold Store.mergeEdge
  cases found : store.findEdge? source target type OrderedMap.empty with
  | some cell =>
      exact
        { nodes := rfl
          index := rfl
          edges := fun _ _ live => live
          found
          joins := sound.of_findEdge? found
          others := fun _ _ _ _ => rfl }
  | none =>
      exact
        { nodes := rfl
          index := rfl
          edges := fun _ _ live => Arena.get?_insert_of_get? _ live
          found := by
            rw [sound.findEdge?_createEdge, if_pos ⟨rfl, rfl, rfl⟩]
            rfl
          joins := ⟨_, Arena.get?_insert_next _ _, rfl, rfl, rfl⟩
          others := by
            intro start finish sought different
            rw [sound.findEdge?_createEdge, if_neg different] }

/-! ## Writing a fact -/

/-- Merges the node of a fact on its key and sets its attributes. -/
def writeNode (store : Store) (fact : NodeFact) : Store :=
  let (cell, merged) := store.mergeNode fact.label.name (Properties.named fact.name)
  merged.setNode cell fact.attributes.toProperties

/-- Merges the relationship of a fact with its ends and sets its attributes. -/
def writeEdge (store : Store) (fact : EdgeFact) : Store :=
  let (source, withSource) :=
    store.mergeNode fact.relation.source.name (Properties.named fact.source)
  let (target, withTarget) :=
    withSource.mergeNode fact.relation.target.name (Properties.named fact.target)
  let (cell, merged) := withTarget.mergeEdge source target fact.relation.name OrderedMap.empty
  merged.setEdge cell fact.attributes.toProperties

/-- Writes a fact. -/
def write (store : Store) : Fact → Store
  | .node fact => store.writeNode fact
  | .edge fact => store.writeEdge fact

theorem Sound.writeNode (sound : Sound store) (fact : NodeFact) :
    Sound (store.writeNode fact) :=
  (sound.mergeNode _ _).setNode _ _

/-- Writing a node first finds or makes it. -/
theorem Sound.writeNode_eq (sound : Sound store) (fact : NodeFact) :
    ∃ cell node between, Sound between ∧ Grows store between ∧
      between.index[(fact.label.name, fact.name)]? = some cell ∧
      between.node? cell = some node ∧
      store.writeNode fact = between.setNode cell fact.attributes.toProperties := by
  have merged := sound.merged fact.label.name fact.name
  obtain ⟨node, live, -⟩ := merged.sound.indexed _ _ merged.indexed
  exact ⟨_, node, _, merged.sound, merged.grows, merged.indexed, live, rfl⟩

/-- Writing a relationship first finds or makes both its ends. -/
theorem Sound.writeEdge_eq (sound : Sound store) (fact : EdgeFact) :
    ∃ source target between, Sound between ∧ Grows store between ∧
      between.index[(fact.relation.source.name, fact.source)]? = some source ∧
      between.index[(fact.relation.target.name, fact.target)]? = some target ∧
      store.writeEdge fact =
        (between.mergeEdge source target fact.relation.name OrderedMap.empty).2.setEdge
          (between.mergeEdge source target fact.relation.name OrderedMap.empty).1
          fact.attributes.toProperties := by
  have first := sound.merged fact.relation.source.name fact.source
  have second := first.sound.merged fact.relation.target.name fact.target
  exact ⟨_, _, _, second.sound, first.grows.trans second.grows,
    second.grows.index _ _ first.indexed, second.indexed, rfl⟩

theorem Sound.writeEdge (sound : Sound store) (fact : EdgeFact) :
    Sound (store.writeEdge fact) := by
  obtain ⟨source, target, between, betweenSound, -, sourceIndexed, targetIndexed, written⟩ :=
    sound.writeEdge_eq fact
  obtain ⟨first, firstLive, -⟩ := betweenSound.indexed _ _ sourceIndexed
  obtain ⟨second, secondLive, -⟩ := betweenSound.indexed _ _ targetIndexed
  rw [written]
  have joined := betweenSound.mergeEdge fact.relation.name OrderedMap.empty
    (Option.isSome_of_eq_some firstLive) (Option.isSome_of_eq_some secondLive)
  exact joined.setEdge _ _

theorem Sound.write (sound : Sound store) (fact : Fact) : Sound (store.write fact) := by
  cases fact with
  | node fact => exact sound.writeNode fact
  | edge fact => exact sound.writeEdge fact

end Store

end CodeGraph
