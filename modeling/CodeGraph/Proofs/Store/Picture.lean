import CodeGraph.Proofs.Store.Write

/-!
# Pictures of a store

A picture says which nodes and relationships a graph has, by their keys, and with which
properties.  A store that has grown from nothing by merging on keys is depicted through
its index: every node is the indexed one of its key, and between two nodes there is one
relationship of a type at most.
-/

namespace CodeGraph

/-- What a node is merged on. -/
structure NodeKey where
  label : NodeLabel
  name : String
deriving DecidableEq

/-- What a relationship is merged on. -/
structure EdgeKey where
  relation : Relation
  source : String
  target : String
deriving DecidableEq

/-- The key of a node in the index. -/
def NodeKey.names (key : NodeKey) : String × String := (key.label.name, key.name)

theorem NodeKey.names_injective {left right : NodeKey} (same : left.names = right.names) :
    left = right := by
  obtain ⟨label, name⟩ := Prod.mk.inj same
  cases left
  cases right
  simp only [NodeKey.mk.injEq]
  exact ⟨NodeLabel.name_injective label, name⟩

namespace EdgeKey

/-- The node that a relationship starts at. -/
def start (key : EdgeKey) : NodeKey := ⟨key.relation.source, key.source⟩

/-- The node that a relationship leads to. -/
def finish (key : EdgeKey) : NodeKey := ⟨key.relation.target, key.target⟩

theorem eq_of_parts {left right : EdgeKey} (start : left.start = right.start)
    (finish : left.finish = right.finish) (type : left.relation.name = right.relation.name) :
    left = right := by
  cases left
  cases right
  simp only [EdgeKey.mk.injEq]
  exact ⟨Relation.name_injective type, congrArg NodeKey.name start,
    congrArg NodeKey.name finish⟩

end EdgeKey

/-- A graph by its keys. -/
@[ext] structure Picture where
  mentions : NodeKey → Prop
  described : NodeKey → Properties
  joins : EdgeKey → Prop
  annotated : EdgeKey → Properties

namespace Picture

/-- The node with a key. -/
def node (picture : Picture) (key : NodeKey) : StoredNode :=
  ⟨key.label.name, picture.described key⟩

/-- The picture once a node has been merged. -/
def mention (picture : Picture) (key : NodeKey) : Picture :=
  { picture with mentions := fun other => picture.mentions other ∨ other = key }

/-- The picture once the attributes of a node have been set. -/
def describe (picture : Picture) (key : NodeKey) (attributes : Attributes) : Picture :=
  { picture with
    described := fun other =>
      if other = key then Properties.overlay (picture.described key) attributes.toProperties
      else picture.described other }

/-- The picture once a relationship has been merged. -/
def join (picture : Picture) (key : EdgeKey) : Picture :=
  { picture with joins := fun other => picture.joins other ∨ other = key }

/-- The picture once the attributes of a relationship have been set. -/
def annotate (picture : Picture) (key : EdgeKey) (attributes : Attributes) : Picture :=
  { picture with
    annotated := fun other =>
      if other = key then Properties.overlay (picture.annotated key) attributes.toProperties
      else picture.annotated other }

theorem described_describe (picture : Picture) (key : NodeKey) (attributes : Attributes) :
    (picture.describe key attributes).described key =
      Properties.overlay (picture.described key) attributes.toProperties := if_pos rfl

theorem described_describe_of_ne (picture : Picture) {key other : NodeKey}
    (attributes : Attributes) (different : other ≠ key) :
    (picture.describe key attributes).described other = picture.described other :=
  if_neg different

theorem annotated_annotate (picture : Picture) (key : EdgeKey) (attributes : Attributes) :
    (picture.annotate key attributes).annotated key =
      Properties.overlay (picture.annotated key) attributes.toProperties := if_pos rfl

theorem annotated_annotate_of_ne (picture : Picture) {key other : EdgeKey}
    (attributes : Attributes) (different : other ≠ key) :
    (picture.annotate key attributes).annotated other = picture.annotated other :=
  if_neg different

private theorem or_eq_self {α : Type} {holds : α → Prop} {one : α} (held : holds one) :
    (fun other => holds other ∨ other = one) = holds := by
  funext other
  apply propext
  constructor
  · rintro (before | rfl)
    · exact before
    · exact held
  · exact Or.inl

theorem mention_of_mentions {picture : Picture} {key : NodeKey}
    (mentioned : picture.mentions key) : picture.mention key = picture := by
  unfold mention
  rw [or_eq_self mentioned]

theorem join_of_joins {picture : Picture} {key : EdgeKey} (joined : picture.joins key) :
    picture.join key = picture := by
  unfold join
  rw [or_eq_self joined]

end Picture

namespace Store

/-- The relationship is the one with the key. -/
structure Shows (store : Store) (picture : Picture) (key : EdgeKey) (edge : StoredEdge) :
    Prop where
  source : store.index[key.start.names]? = some edge.source
  target : store.index[key.finish.names]? = some edge.target
  type : edge.type = key.relation.name
  properties : edge.properties = picture.annotated key

/-- The store looks like the picture. -/
structure Depicts (store : Store) (picture : Picture) : Prop where
  sound : Sound store
  indexed : ∀ key : NodeKey,
    picture.mentions key ↔ (store.index[key.names]?).isSome = true
  nodes : ∀ cell node, store.node? cell = some node →
    ∃ key : NodeKey, store.index[key.names]? = some cell ∧ node = picture.node key
  edges : ∀ cell edge, store.edges.get? cell = some edge →
    ∃ key, picture.joins key ∧ Shows store picture key edge
  joined : ∀ key, picture.joins key →
    ∃ cell edge, store.edges.get? cell = some edge ∧ Shows store picture key edge
  single : ∀ left right leftEdge rightEdge, store.edges.get? left = some leftEdge →
    store.edges.get? right = some rightEdge → leftEdge.source = rightEdge.source →
    leftEdge.target = rightEdge.target → leftEdge.type = rightEdge.type → left = right

variable {store : Store} {picture : Picture}

theorem Shows.mono {after : Store} {next : Picture} {key : EdgeKey} {edge : StoredEdge}
    (visible : Shows store picture key edge)
    (index : ∀ (asked : String × String) (cell : Nat), store.index[asked]? = some cell →
      after.index[asked]? = some cell)
    (annotated : next.annotated key = picture.annotated key) : Shows after next key edge where
  source := index _ _ visible.source
  target := index _ _ visible.target
  type := visible.type
  properties := visible.properties.trans annotated.symm

theorem Sound.nodeKey_unique (sound : Sound store) {left right : NodeKey} {cell : Nat}
    (leftFound : store.index[left.names]? = some cell)
    (rightFound : store.index[right.names]? = some cell) : left = right :=
  NodeKey.names_injective (sound.indexed.eq_of_same_cell leftFound rightFound)

theorem Shows.key_unique {left right : EdgeKey} {edge : StoredEdge} (sound : Sound store)
    (leftShows : Shows store picture left edge) (rightShows : Shows store picture right edge) :
    left = right := by
  apply EdgeKey.eq_of_parts
  · exact sound.nodeKey_unique leftShows.source rightShows.source
  · exact sound.nodeKey_unique leftShows.target rightShows.target
  · exact leftShows.type.symm.trans rightShows.type

/-- The indexed node of a key is the one of the picture. -/
theorem Depicts.node?_of_indexed (depicts : Depicts store picture) {key : NodeKey} {cell : Nat}
    (found : store.index[key.names]? = some cell) :
    store.node? cell = some (picture.node key) := by
  obtain ⟨node, live, -⟩ := depicts.sound.indexed _ _ found
  obtain ⟨other, otherFound, rfl⟩ := depicts.nodes cell node live
  have same := depicts.sound.nodeKey_unique found otherFound
  subst other
  exact live

theorem Depicts.cell_unique (depicts : Depicts store picture) {key : EdgeKey}
    {left right : Nat} {leftEdge rightEdge : StoredEdge}
    (leftLive : store.edges.get? left = some leftEdge)
    (rightLive : store.edges.get? right = some rightEdge)
    (leftShows : Shows store picture key leftEdge)
    (rightShows : Shows store picture key rightEdge) : left = right := by
  have sources := Option.some.inj (leftShows.source.symm.trans rightShows.source)
  have targets := Option.some.inj (leftShows.target.symm.trans rightShows.target)
  have types := leftShows.type.trans rightShows.type.symm
  exact depicts.single left right leftEdge rightEdge leftLive rightLive sources targets types

/-! ## Merging and setting -/

theorem index_createNode_named {key : NodeKey} (missing : store.index[key.names]? = none)
    (asked : NodeKey) :
    (store.createNode key.label.name (Properties.named key.name)).2.index[asked.names]? =
      if asked = key then some store.nodes.next else store.index[asked.names]? := by
  have keyed : StoredNode.key? ⟨key.label.name, Properties.named key.name⟩ =
      some key.names := rfl
  rw [index_createNode, getElem?_claimKey, keyed]
  by_cases same : asked = key
  · subst asked
    rw [if_pos ⟨rfl, missing⟩, if_pos rfl]
  · have different : ¬(some key.names = some asked.names ∧
        store.index[asked.names]? = none) := by
      rintro ⟨names, -⟩
      exact same (NodeKey.names_injective (Option.some.inj names)).symm
    rw [if_neg different, if_neg same]

theorem Depicts.createNode (depicts : Depicts store picture) {key : NodeKey}
    (missing : store.index[key.names]? = none)
    (new : picture.described key = Properties.named key.name) :
    Depicts (store.createNode key.label.name (Properties.named key.name)).2
      (picture.mention key) := by
  have grows := grows_createNode store key.label.name (Properties.named key.name)
  have index := index_createNode_named missing
  refine
    { sound := depicts.sound.createNode _ _
      indexed := ?_
      nodes := ?_
      edges := ?_
      joined := ?_
      single := depicts.single }
  · intro asked
    rw [index]
    change (picture.mentions asked ∨ asked = key) ↔ _
    by_cases same : asked = key
    · simp [same]
    · rw [if_neg same, depicts.indexed asked]
      simp [same]
  · intro cell node live
    rw [node?_createNode] at live
    split at live
    next here =>
      cases live
      refine ⟨key, ?_, ?_⟩
      · rw [index, if_pos rfl, here]
      · unfold Picture.node
        rw [← new]
        rfl
    next =>
      obtain ⟨old, oldFound, rfl⟩ := depicts.nodes cell node live
      exact ⟨old, grows.index _ _ oldFound, rfl⟩
  · intro cell edge live
    obtain ⟨edgeKey, joins, visible⟩ := depicts.edges cell edge live
    exact ⟨edgeKey, joins, visible.mono grows.index rfl⟩
  · intro edgeKey joins
    obtain ⟨cell, edge, live, visible⟩ := depicts.joined edgeKey joins
    exact ⟨cell, edge, live, visible.mono grows.index rfl⟩

theorem Depicts.mergeNode (depicts : Depicts store picture) (key : NodeKey)
    (new : ¬picture.mentions key → picture.described key = Properties.named key.name) :
    Depicts (store.mergeNode key.label.name (Properties.named key.name)).2
      (picture.mention key) := by
  rw [depicts.sound.mergeNode_named]
  cases found : store.index[(key.label.name, key.name)]? with
  | some cell =>
      have mentioned : picture.mentions key :=
        (depicts.indexed key).mpr (Option.isSome_of_eq_some found)
      rw [Picture.mention_of_mentions mentioned]
      exact depicts
  | none =>
      have unmentioned : ¬picture.mentions key := by
        intro mentioned
        have present := (depicts.indexed key).mp mentioned
        rw [show store.index[key.names]? = none from found] at present
        cases present
      exact depicts.createNode found (new unmentioned)

theorem Depicts.setNode (depicts : Depicts store picture) {key : NodeKey} {cell : Nat}
    {attributes : Attributes} (found : store.index[key.names]? = some cell)
    (plain : keyProperty ∉ attributes.keys) :
    Depicts (store.setNode cell attributes.toProperties) (picture.describe key attributes) := by
  have live := depicts.node?_of_indexed found
  have index := index_setNode_of_plain live plain
  have kept : ∀ (asked : String × String) (place : Nat), store.index[asked]? = some place →
      (store.setNode cell attributes.toProperties).index[asked]? = some place := by
    intro asked place known
    rw [index]
    exact known
  refine
    { sound := depicts.sound.setNode _ _
      indexed := ?_
      nodes := ?_
      edges := ?_
      joined := ?_
      single := ?_ }
  · rw [index]
    exact depicts.indexed
  · intro other node otherLive
    rw [index]
    rw [node?_setNode] at otherLive
    split at otherLive
    next here =>
      refine ⟨key, here ▸ found, ?_⟩
      rw [here, live] at otherLive
      cases otherLive
      unfold Picture.node
      rw [Picture.described_describe]
    next elsewhere =>
      obtain ⟨old, oldFound, rfl⟩ := depicts.nodes other node otherLive
      refine ⟨old, oldFound, ?_⟩
      have different : old ≠ key := by
        rintro rfl
        rw [oldFound] at found
        exact elsewhere (Option.some.inj found)
      unfold Picture.node
      rw [Picture.described_describe_of_ne picture attributes different]
  · intro place edge edgeLive
    rw [edges_setNode] at edgeLive
    obtain ⟨edgeKey, joins, visible⟩ := depicts.edges place edge edgeLive
    exact ⟨edgeKey, joins, visible.mono kept rfl⟩
  · intro edgeKey joins
    obtain ⟨place, edge, edgeLive, visible⟩ := depicts.joined edgeKey joins
    refine ⟨place, edge, ?_, visible.mono kept rfl⟩
    rw [edges_setNode]
    exact edgeLive
  · rw [edges_setNode]
    exact depicts.single

theorem Depicts.createEdge (depicts : Depicts store picture) {key : EdgeKey}
    {source target : Nat} (start : store.index[key.start.names]? = some source)
    (finish : store.index[key.finish.names]? = some target)
    (missing : ∀ cell edge, store.edges.get? cell = some edge →
      ¬(edge.source = source ∧ edge.target = target ∧ edge.type = key.relation.name))
    (new : picture.annotated key = OrderedMap.empty) :
    Depicts (store.createEdge source target key.relation.name OrderedMap.empty).2
      (picture.join key) := by
  let edge : StoredEdge := ⟨source, target, key.relation.name, OrderedMap.empty⟩
  have here : Shows (store.createEdge source target key.relation.name OrderedMap.empty).2
      (picture.join key) key edge := ⟨start, finish, rfl, new.symm⟩
  refine
    { sound := depicts.sound.createEdge _ _
        (Option.isSome_of_eq_some (depicts.node?_of_indexed start))
        (Option.isSome_of_eq_some (depicts.node?_of_indexed finish))
      indexed := depicts.indexed
      nodes := depicts.nodes
      edges := ?_
      joined := ?_
      single := ?_ }
  · intro cell other live
    rw [get?_createEdge] at live
    split at live
    next =>
      cases live
      exact ⟨key, Or.inr rfl, here⟩
    next =>
      obtain ⟨otherKey, joins, visible⟩ := depicts.edges cell other live
      exact ⟨otherKey, Or.inl joins, visible.mono (fun _ _ found => found) rfl⟩
  · rintro otherKey (joins | rfl)
    · obtain ⟨cell, other, live, visible⟩ := depicts.joined otherKey joins
      exact ⟨cell, other, Arena.get?_insert_of_get? edge live,
        visible.mono (fun _ _ found => found) rfl⟩
    · exact ⟨_, edge, Arena.get?_insert_next store.edges edge, here⟩
  · intro left right leftEdge rightEdge leftLive rightLive sources targets types
    rw [get?_createEdge] at leftLive rightLive
    split at leftLive
    next leftNew =>
      cases leftLive
      split at rightLive
      next rightNew => exact leftNew.trans rightNew.symm
      next => exact (missing right rightEdge rightLive
        ⟨sources.symm, targets.symm, types.symm⟩).elim
    next =>
      split at rightLive
      next =>
        cases rightLive
        exact (missing left leftEdge leftLive ⟨sources, targets, types⟩).elim
      next =>
        exact depicts.single left right leftEdge rightEdge leftLive rightLive sources
          targets types

/-- Merging a relationship answers the cell of the one relationship with the key. -/
theorem Depicts.mergeEdge (depicts : Depicts store picture) (key : EdgeKey)
    {source target : Nat} (start : store.index[key.start.names]? = some source)
    (finish : store.index[key.finish.names]? = some target)
    (new : ¬picture.joins key → picture.annotated key = OrderedMap.empty) :
    ∃ edge, Depicts (store.mergeEdge source target key.relation.name OrderedMap.empty).2
        (picture.join key) ∧
      (store.mergeEdge source target key.relation.name OrderedMap.empty).2.edges.get?
        (store.mergeEdge source target key.relation.name OrderedMap.empty).1 = some edge ∧
      Shows (store.mergeEdge source target key.relation.name OrderedMap.empty).2
        (picture.join key) key edge := by
  unfold Store.mergeEdge
  cases found : store.findEdge? source target key.relation.name OrderedMap.empty with
  | some cell =>
      obtain ⟨edge, live, rfl, rfl, edgeType⟩ := depicts.sound.of_findEdge? found
      obtain ⟨other, joins, visible⟩ := depicts.edges cell edge live
      have same : other = key := by
        apply EdgeKey.eq_of_parts
        · exact depicts.sound.nodeKey_unique visible.source start
        · exact depicts.sound.nodeKey_unique visible.target finish
        · exact visible.type.symm.trans edgeType
      subst other
      rw [Picture.join_of_joins joins]
      exact ⟨edge, depicts, live, visible⟩
  | none =>
      have missing : ∀ cell edge, store.edges.get? cell = some edge →
          ¬(edge.source = source ∧ edge.target = target ∧ edge.type = key.relation.name) :=
        fun cell edge live => depicts.sound.of_findEdge?_eq_none found live
      have unjoined : ¬picture.joins key := by
        intro joins
        obtain ⟨cell, edge, live, visible⟩ := depicts.joined key joins
        have edgeSource := Option.some.inj (visible.source.symm.trans start)
        have edgeTarget := Option.some.inj (visible.target.symm.trans finish)
        exact missing cell edge live ⟨edgeSource, edgeTarget, visible.type⟩
      exact ⟨⟨source, target, key.relation.name, OrderedMap.empty⟩,
        depicts.createEdge start finish missing (new unjoined),
        Arena.get?_insert_next store.edges _, start, finish, rfl, (new unjoined).symm⟩

theorem Depicts.setEdge (depicts : Depicts store picture) {key : EdgeKey} {cell : Nat}
    {edge : StoredEdge} (attributes : Attributes) (live : store.edges.get? cell = some edge)
    (visible : Shows store picture key edge) :
    Depicts (store.setEdge cell attributes.toProperties) (picture.annotate key attributes) := by
  let changed : StoredEdge :=
    { edge with properties :=
      Properties.overlay edge.properties attributes.toProperties }
  have here : (store.setEdge cell attributes.toProperties).edges.get? cell = some changed := by
    rw [get?_setEdge, if_pos rfl, live]
    rfl
  have shown : Shows (store.setEdge cell attributes.toProperties)
      (picture.annotate key attributes) key changed :=
    { source := visible.source
      target := visible.target
      type := visible.type
      properties := by
        rw [Picture.annotated_annotate, ← visible.properties] }
  have others : ∀ other otherEdge otherKey, store.edges.get? other = some otherEdge →
      Shows store picture otherKey otherEdge → other ≠ cell →
      Shows (store.setEdge cell attributes.toProperties) (picture.annotate key attributes)
        otherKey otherEdge := by
    intro other otherEdge otherKey otherLive otherVisible different
    have otherKeyDifferent : otherKey ≠ key := by
      rintro rfl
      exact different (depicts.cell_unique otherLive live otherVisible visible)
    exact otherVisible.mono (fun _ _ found => found)
      (Picture.annotated_annotate_of_ne picture attributes otherKeyDifferent)
  refine
    { sound := depicts.sound.setEdge _ _
      indexed := depicts.indexed
      nodes := depicts.nodes
      edges := ?_
      joined := ?_
      single := ?_ }
  · intro other after afterLive
    by_cases same : other = cell
    · subst other
      rw [here] at afterLive
      cases afterLive
      obtain ⟨edgeKey, joins, edgeVisible⟩ := depicts.edges _ edge live
      have sameKey := edgeVisible.key_unique depicts.sound visible
      exact ⟨key, sameKey ▸ joins, shown⟩
    · rw [get?_setEdge, if_neg same] at afterLive
      obtain ⟨edgeKey, joins, edgeVisible⟩ := depicts.edges other after afterLive
      exact ⟨edgeKey, joins, others other after edgeKey afterLive edgeVisible same⟩
  · intro edgeKey joins
    obtain ⟨other, old, oldLive, oldVisible⟩ := depicts.joined edgeKey joins
    by_cases same : other = cell
    · subst other
      rw [live] at oldLive
      cases oldLive
      have sameKey := oldVisible.key_unique depicts.sound visible
      subst edgeKey
      exact ⟨cell, changed, here, shown⟩
    · refine ⟨other, old, ?_, others other old edgeKey oldLive oldVisible same⟩
      rw [get?_setEdge, if_neg same]
      exact oldLive
  · intro left right leftEdge rightEdge leftLive rightLive sources targets types
    obtain ⟨oldLeft, oldLeftLive, leftSource, leftTarget, leftType⟩ :=
      of_get?_setEdge leftLive
    obtain ⟨oldRight, oldRightLive, rightSource, rightTarget, rightType⟩ :=
      of_get?_setEdge rightLive
    exact depicts.single left right oldLeft oldRight oldLeftLive oldRightLive
      (leftSource.symm.trans (sources.trans rightSource))
      (leftTarget.symm.trans (targets.trans rightTarget))
      (leftType.symm.trans (types.trans rightType))

/-! ## What a depicted store holds -/

/-- The cell holds the relationship with the key. -/
def Connects (store : Store) (picture : Picture) (key : EdgeKey) (cell : Nat) : Prop :=
  ∃ edge, store.edges.get? cell = some edge ∧
    store.node? edge.source = some (picture.node key.start) ∧
    store.node? edge.target = some (picture.node key.finish) ∧
    edge.type = key.relation.name ∧ edge.properties = picture.annotated key

/-- The store holds what the picture shows, each node and each relationship once, and
nothing else. -/
structure Holds (store : Store) (picture : Picture) : Prop where
  node_of_mention : ∀ key, picture.mentions key →
    ∃ cell, store.node? cell = some (picture.node key) ∧
      ∀ other, store.node? other = some (picture.node key) → other = cell
  mention_of_node : ∀ cell node, store.node? cell = some node →
    ∃ key, picture.mentions key ∧ node = picture.node key
  edge_of_join : ∀ key, picture.joins key →
    ∃ cell, Connects store picture key cell ∧
      ∀ other, Connects store picture key other → other = cell
  join_of_edge : ∀ cell edge, store.edges.get? cell = some edge →
    ∃ key, picture.joins key ∧ Connects store picture key cell

theorem Depicts.cell_of_node? (depicts : Depicts store picture) {key : NodeKey}
    {cell other : Nat} (found : store.index[key.names]? = some cell)
    (live : store.node? other = some (picture.node key)) : other = cell := by
  obtain ⟨otherKey, otherFound, -⟩ := depicts.nodes other _ live
  have keyed := depicts.sound.indexed.key_of_get? found (depicts.node?_of_indexed found)
  have otherKeyed := depicts.sound.indexed.key_of_get? otherFound live
  rw [keyed] at otherKeyed
  have same := Option.some.inj otherKeyed
  rw [← same, found] at otherFound
  exact (Option.some.inj otherFound).symm

theorem Depicts.connects (depicts : Depicts store picture) {key : EdgeKey} {cell : Nat}
    {edge : StoredEdge} (live : store.edges.get? cell = some edge)
    (visible : Shows store picture key edge) : Connects store picture key cell :=
  ⟨edge, live, depicts.node?_of_indexed visible.source,
    depicts.node?_of_indexed visible.target, visible.type, visible.properties⟩

theorem Depicts.holds (depicts : Depicts store picture) : Holds store picture where
  node_of_mention := by
    intro key mentioned
    obtain ⟨cell, found⟩ := Option.isSome_iff_exists.mp ((depicts.indexed key).mp mentioned)
    exact ⟨cell, depicts.node?_of_indexed found,
      fun other live => depicts.cell_of_node? found live⟩
  mention_of_node := by
    intro cell node live
    obtain ⟨key, found, same⟩ := depicts.nodes cell node live
    exact ⟨key, (depicts.indexed key).mpr (Option.isSome_of_eq_some found), same⟩
  edge_of_join := by
    intro key joins
    obtain ⟨cell, edge, live, visible⟩ := depicts.joined key joins
    refine ⟨cell, depicts.connects live visible, ?_⟩
    rintro other ⟨otherEdge, otherLive, source, target, type, -⟩
    exact depicts.single other cell otherEdge edge otherLive live
      (depicts.cell_of_node? visible.source source)
      (depicts.cell_of_node? visible.target target)
      (type.trans visible.type.symm)
  join_of_edge := by
    intro cell edge live
    obtain ⟨key, joins, visible⟩ := depicts.edges cell edge live
    exact ⟨key, joins, depicts.connects live visible⟩

end Store

end CodeGraph
