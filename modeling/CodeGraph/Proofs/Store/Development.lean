import CodeGraph.Proofs.Store.Layout

/-!
# Developing stores

Merging and setting develop a store, and they change what its keys show in the way that the
names of the changes of a picture say.  So does writing a fact.
-/

namespace CodeGraph

/-- The picture once a fact has been written. -/
def Picture.write (picture : Picture) : Fact → Picture
  | .node fact =>
      (picture.mention ⟨fact.label, fact.name⟩).describe ⟨fact.label, fact.name⟩ fact.attributes
  | .edge fact =>
      let key : EdgeKey := ⟨fact.relation, fact.source, fact.target⟩
      (((picture.mention key.start).mention key.finish).join key).annotate key fact.attributes

namespace Store

variable {store : Store}

/-! ## Merging a node -/

/-- No relationship starts at an empty cell or leads to one. -/
theorem Sound.findEdge?_of_vacant (sound : Sound store) {source target : Nat} (type : String)
    (vacant : store.node? source = none ∨ store.node? target = none) :
    store.findEdge? source target type OrderedMap.empty = none := by
  cases found : store.findEdge? source target type OrderedMap.empty with
  | none => rfl
  | some cell =>
      obtain ⟨edge, live, rfl, rfl, -⟩ := sound.of_findEdge? found
      have sourceLive := sound.sources cell edge live
      have targetLive := sound.targets cell edge live
      rcases vacant with empty | empty
      · rw [empty] at sourceLive
        cases sourceLive
      · rw [empty] at targetLive
        cases targetLive

theorem Sound.edgeCell?_createNode (sound : Sound store) {key : NodeKey}
    (missing : store.index[key.names]? = none) (asked : EdgeKey) :
    (store.createNode key.label.name (Properties.named key.name)).2.edgeCell? asked =
      store.edgeCell? asked := by
  have index := index_createNode_named missing
  have vacant : store.node? store.nodes.next = none := Arena.get?_next store.nodes
  have edges : ∀ source target,
      (store.createNode key.label.name (Properties.named key.name)).2.findEdge? source target
        asked.relation.name OrderedMap.empty =
      store.findEdge? source target asked.relation.name OrderedMap.empty :=
    fun source target => findEdge?_congr rfl rfl source target _ _
  unfold edgeCell?
  simp only [index, edges]
  by_cases start : asked.start = key
  · have none : ∀ target, store.findEdge? store.nodes.next target asked.relation.name
        OrderedMap.empty = none := fun target => sound.findEdge?_of_vacant _ (.inl vacant)
    simp [start, missing, none]
  · by_cases finish : asked.finish = key
    · have none : ∀ source, store.findEdge? source store.nodes.next asked.relation.name
          OrderedMap.empty = none := fun source => sound.findEdge?_of_vacant _ (.inr vacant)
      simp [start, finish, missing, none]
    · simp [start, finish]

theorem Sound.develops_createNode (sound : Sound store) {key : NodeKey}
    (missing : store.index[key.names]? = none) :
    let after := (store.createNode key.label.name (Properties.named key.name)).2
    Develops store after ∧ after.picture = store.picture.mention key := by
  intro after
  have index : ∀ asked : NodeKey, after.index[asked.names]? =
      if asked = key then some store.nodes.next else store.index[asked.names]? :=
    index_createNode_named missing
  have edgeLayout : after.edgeLayout = store.edgeLayout := by
    unfold Store.edgeLayout
    rw [funext (sound.edgeCell?_createNode missing)]
    rfl
  have here : after.node? store.nodes.next =
      some ⟨key.label.name, Properties.named key.name⟩ := by
    rw [node?_createNode, if_pos rfl]
  constructor
  · refine ⟨⟨?_, ?_, ?_⟩, edgeLayout ▸ .refl _⟩
    · intro asked cell found
      exact (grows_createNode store _ _).index _ _ found
    · intro asked cell found
      rw [show after.nodeLayout.find? asked = _ from index asked] at found
      split at found
      · cases found
        exact .inr (Arena.get?_next store.nodes)
      · exact .inl found
    · intro cell lost
      change after.node? cell = store.node? cell
      rw [node?_createNode, if_neg]
      rintro rfl
      exact lost key ((index key).trans (if_pos rfl))
  · obtain ⟨joins, annotated⟩ := joins_congr edgeLayout
    apply Picture.ext
    · funext asked
      apply propext
      change (after.index[asked.names]?).isSome = true ↔
        (store.index[asked.names]?).isSome = true ∨ asked = key
      rw [index]
      by_cases same : asked = key
      · simp [same]
      · simp [same]
    · funext asked
      change after.picture.described asked = store.picture.described asked
      by_cases same : asked = key
      · subst asked
        rw [described_picture_of_none missing]
        exact described_picture ((index key).trans (if_pos rfl)) here
      · refine described_congr ((index asked).trans (if_neg same)) fun cell found => ?_
        obtain ⟨node, live, -⟩ := sound.indexed _ _ found
        have held : store.node? cell = some node := live
        rw [held]
        exact node?_createNode_of_node? _ _ held
    · exact joins
    · exact annotated

/-- Merging a node on its key develops a store, and the node is mentioned from then on. -/
theorem Sound.develops_mergeNode (sound : Sound store) (key : NodeKey) :
    let after := (store.mergeNode key.label.name (Properties.named key.name)).2
    Develops store after ∧ after.picture = store.picture.mention key := by
  intro after
  have merged : after = _ := congrArg Prod.snd (sound.mergeNode_named key.label.name key.name)
  cases found : store.index[(key.label.name, key.name)]? with
  | some cell =>
      have mentioned : store.picture.mentions key := Option.isSome_of_eq_some found
      rw [merged, found, Picture.mention_of_mentions mentioned]
      exact ⟨Develops.refl store, rfl⟩
  | none =>
      rw [merged, found]
      exact sound.develops_createNode found

/-! ## Setting the attributes of a node -/

theorem edgeCell?_congr {other : Store} (index : other.index = store.index)
    (edges : other.edges = store.edges) (recent : other.recent = store.recent) (key : EdgeKey) :
    other.edgeCell? key = store.edgeCell? key := by
  unfold edgeCell?
  simp only [index, findEdge?_congr edges recent]

/-- Setting attributes of the node under a key develops a store and describes the node. -/
theorem Sound.develops_setNode (sound : Sound store) (key : NodeKey) {cell : Nat}
    {attributes : Attributes} (found : store.index[key.names]? = some cell)
    (plain : keyProperty ∉ attributes.keys) :
    let after := store.setNode cell attributes.toProperties
    Develops store after ∧ after.picture = store.picture.describe key attributes := by
  intro after
  obtain ⟨node, live, -⟩ := sound.indexed _ _ found
  have held : store.node? cell = some node := live
  have index : after.index = store.index := index_setNode_of_plain live plain
  have edges : after.edges = store.edges := edges_setNode _ _ _
  have edgeLayout : after.edgeLayout = store.edgeLayout := by
    unfold Store.edgeLayout
    rw [edges, funext (edgeCell?_congr index edges (recent_setNode _ _ _))]
  have keys : after.nodeLayout.find? = store.nodeLayout.find? := by
    unfold nodeLayout
    rw [index]
  have elsewhere : ∀ other, other ≠ cell → after.node? other = store.node? other := by
    intro other different
    rw [node?_setNode, if_neg different]
  constructor
  · refine ⟨⟨?_, ?_, ?_⟩, edgeLayout ▸ .refl _⟩
    · intro asked place known
      rw [keys]
      exact known
    · intro asked place known
      rw [keys] at known
      exact .inl known
    · intro other lost
      rw [keys] at lost
      apply elsewhere
      rintro rfl
      exact lost key found
  · obtain ⟨joins, annotated⟩ := joins_congr edgeLayout
    apply Picture.ext
    · funext asked
      change ((after.nodeLayout.find? asked).isSome = true) = _
      rw [keys]
      rfl
    · funext asked
      by_cases same : asked = key
      · subst asked
        have changed : after.node? cell = some { node with
            properties := Properties.overlay node.properties attributes.toProperties } := by
          rw [node?_setNode, if_pos rfl, held]
          rfl
        rw [Picture.described_describe, described_picture found held]
        exact described_picture (index ▸ found) changed
      · rw [Picture.described_describe_of_ne _ _ same]
        refine described_congr (by rw [index]) fun place known => elsewhere place ?_
        rintro rfl
        exact same (sound.nodeKey_unique known found)
    · exact joins
    · exact annotated

/-! ## Merging a relationship -/

theorem Sound.edgeCell?_createEdge (sound : Sound store) {key : EdgeKey} {source target : Nat}
    (start : store.index[key.start.names]? = some source)
    (finish : store.index[key.finish.names]? = some target) (asked : EdgeKey) :
    (store.createEdge source target key.relation.name OrderedMap.empty).2.edgeCell? asked =
      if asked = key then some store.edges.next else store.edgeCell? asked := by
  let after := (store.createEdge source target key.relation.name OrderedMap.empty).2
  have index : after.index = store.index := rfl
  change after.edgeCell? asked = _
  split
  next same =>
    subst asked
    rw [edgeCell?_of_indexed (index ▸ start) (index ▸ finish), sound.findEdge?_createEdge,
      if_pos ⟨rfl, rfl, rfl⟩]
  next different =>
    unfold edgeCell?
    rw [index]
    cases otherStart : store.index[asked.start.names]? with
    | none => rfl
    | some otherSource =>
        cases otherFinish : store.index[asked.finish.names]? with
        | none => rfl
        | some otherTarget =>
            refine (sound.findEdge?_createEdge _ _ _ _ _ _ _).trans (if_neg ?_)
            rintro ⟨rfl, rfl, type⟩
            exact different (EdgeKey.eq_of_parts (sound.nodeKey_unique otherStart start)
              (sound.nodeKey_unique otherFinish finish) type.symm)

theorem Sound.develops_createEdge (sound : Sound store) {key : EdgeKey} {source target : Nat}
    (start : store.index[key.start.names]? = some source)
    (finish : store.index[key.finish.names]? = some target)
    (missing : store.edgeCell? key = none) :
    let after := (store.createEdge source target key.relation.name OrderedMap.empty).2
    Develops store after ∧ after.picture = store.picture.join key := by
  intro after
  have cells : ∀ asked, after.edgeCell? asked =
      if asked = key then some store.edges.next else store.edgeCell? asked :=
    sound.edgeCell?_createEdge start finish
  have nodeLayout : after.nodeLayout = store.nodeLayout := rfl
  have here : after.edges.get? store.edges.next =
      some ⟨source, target, key.relation.name, OrderedMap.empty⟩ :=
    Arena.get?_insert_next store.edges _
  constructor
  · refine ⟨nodeLayout ▸ .refl _, ⟨?_, ?_, ?_⟩⟩
    · intro asked cell found
      have different : asked ≠ key := by
        rintro rfl
        cases missing.symm.trans found
      exact (cells asked).trans ((if_neg different).trans found)
    · intro asked cell found
      rw [show after.edgeLayout.find? asked = _ from cells asked] at found
      split at found
      · cases found
        exact .inr (Arena.get?_next store.edges)
      · exact .inl found
    · intro cell lost
      change after.edges.get? cell = store.edges.get? cell
      rw [get?_createEdge, if_neg]
      rintro rfl
      exact lost key ((cells key).trans (if_pos rfl))
  · obtain ⟨mentions, described⟩ := mentions_congr nodeLayout
    apply Picture.ext
    · exact mentions
    · exact described
    · funext asked
      apply propext
      change (after.edgeCell? asked).isSome = true ↔
        (store.edgeCell? asked).isSome = true ∨ asked = key
      rw [cells]
      by_cases same : asked = key
      · simp [same]
      · simp [same]
    · funext asked
      change after.picture.annotated asked = store.picture.annotated asked
      by_cases same : asked = key
      · subst asked
        rw [annotated_picture_of_none missing]
        exact annotated_picture ((cells key).trans (if_pos rfl)) here
      · refine annotated_congr ((cells asked).trans (if_neg same)) fun cell found => ?_
        obtain ⟨edge, live, -⟩ := sound.of_edgeCell? found
        rw [live]
        exact Arena.get?_insert_of_get? _ live

/-- Merging a relationship between two nodes that are found under their keys develops a store,
and the relationship joins them from then on. -/
theorem Sound.develops_mergeEdge (sound : Sound store) {key : EdgeKey} {source target : Nat}
    (start : store.index[key.start.names]? = some source)
    (finish : store.index[key.finish.names]? = some target) :
    let after := (store.mergeEdge source target key.relation.name OrderedMap.empty).2
    Develops store after ∧ after.picture = store.picture.join key := by
  intro after
  have sought := edgeCell?_of_indexed start finish
  cases found : store.findEdge? source target key.relation.name OrderedMap.empty with
  | some cell =>
      have unchanged : after = store := by
        simp only [after, Store.mergeEdge, found]
      have joined : store.picture.joins key := Option.isSome_of_eq_some (sought.trans found)
      rw [unchanged, Picture.join_of_joins joined]
      exact ⟨Develops.refl store, rfl⟩
  | none =>
      have created : after =
          (store.createEdge source target key.relation.name OrderedMap.empty).2 := by
        simp only [after, Store.mergeEdge, found]
      rw [created]
      exact sound.develops_createEdge start finish (sought.trans found)

/-! ## Setting the attributes of a relationship -/

/-- Setting attributes of the relationship under a key develops a store and annotates the
relationship. -/
theorem Sound.develops_setEdge (sound : Sound store) {key : EdgeKey} {cell : Nat}
    (found : store.edgeCell? key = some cell) (attributes : Attributes) :
    let after := store.setEdge cell attributes.toProperties
    Develops store after ∧ after.picture = store.picture.annotate key attributes := by
  intro after
  obtain ⟨edge, live, -⟩ := sound.of_edgeCell? found
  have nodeLayout : after.nodeLayout = store.nodeLayout := rfl
  have cells : after.edgeCell? = store.edgeCell? := by
    funext asked
    unfold edgeCell?
    simp only [after, index_setEdge, findEdge?_setEdge]
  have elsewhere : ∀ other, other ≠ cell → after.edges.get? other = store.edges.get? other := by
    intro other different
    rw [get?_setEdge, if_neg different]
  constructor
  · refine ⟨nodeLayout ▸ .refl _, ⟨?_, ?_, ?_⟩⟩
    · intro asked place known
      exact (congrFun cells asked).trans known
    · intro asked place known
      exact .inl ((congrFun cells asked).symm.trans known)
    · intro other lost
      apply elsewhere
      rintro rfl
      exact lost key ((congrFun cells key).trans found)
  · obtain ⟨mentions, described⟩ := mentions_congr nodeLayout
    apply Picture.ext
    · exact mentions
    · exact described
    · funext asked
      change ((after.edgeCell? asked).isSome = true) = _
      rw [cells]
      rfl
    · funext asked
      by_cases same : asked = key
      · subst asked
        have changed : after.edges.get? cell = some { edge with
            properties := Properties.overlay edge.properties attributes.toProperties } := by
          rw [get?_setEdge, if_pos rfl, live]
          rfl
        rw [Picture.annotated_annotate, annotated_picture found live]
        exact annotated_picture ((congrFun cells key).trans found) changed
      · rw [Picture.annotated_annotate_of_ne _ _ same]
        refine annotated_congr (congrFun cells asked) fun place known => elsewhere place ?_
        rintro rfl
        exact same (sound.proper_edgeLayout.distinct _ _ _ known found)

/-- Merging a relationship and setting its attributes. -/
theorem Sound.develops_setMergedEdge (sound : Sound store) (key : EdgeKey)
    {source target : Nat} (start : store.index[key.start.names]? = some source)
    (finish : store.index[key.finish.names]? = some target) (attributes : Attributes) :
    let merged := store.mergeEdge source target key.relation.name OrderedMap.empty
    let after := merged.2.setEdge merged.1 attributes.toProperties
    Develops store after ∧
      after.picture = (store.picture.join key).annotate key attributes := by
  intro merged after
  obtain ⟨joinDevelops, joinPicture⟩ := sound.develops_mergeEdge start finish
  have joined := sound.joined source target key.relation.name
  have mergedSound : Sound merged.2 := sound.mergeEdge key.relation.name OrderedMap.empty
    (sound.proper_nodeLayout.filled key.start source start)
    (sound.proper_nodeLayout.filled key.finish target finish)
  have found : merged.2.edgeCell? key = some merged.1 :=
    (edgeCell?_of_indexed (joined.index ▸ start) (joined.index ▸ finish)).trans joined.found
  obtain ⟨setDevelops, setPicture⟩ := mergedSound.develops_setEdge found attributes
  refine ⟨joinDevelops.trans setDevelops mergedSound, setPicture.trans ?_⟩
  rw [joinPicture]

/-! ## Writing -/

/-- Writing a fact develops a store and changes its picture accordingly. -/
theorem Sound.develops_write (sound : Sound store) {fact : Fact}
    (plain : keyProperty ∉ fact.attributes.keys) :
    Develops store (store.write fact) ∧
      (store.write fact).picture = store.picture.write fact := by
  cases fact with
  | node fact =>
      let key : NodeKey := ⟨fact.label, fact.name⟩
      obtain ⟨mergeDevelops, mergePicture⟩ := sound.develops_mergeNode key
      have merged := sound.merged fact.label.name fact.name
      obtain ⟨setDevelops, setPicture⟩ :=
        merged.sound.develops_setNode key merged.indexed plain
      refine ⟨mergeDevelops.trans setDevelops merged.sound, setPicture.trans ?_⟩
      rw [mergePicture]
      rfl
  | edge fact =>
      let key : EdgeKey := ⟨fact.relation, fact.source, fact.target⟩
      obtain ⟨startDevelops, startPicture⟩ := sound.develops_mergeNode key.start
      have start := sound.merged fact.relation.source.name fact.source
      obtain ⟨finishDevelops, finishPicture⟩ := start.sound.develops_mergeNode key.finish
      have finish := start.sound.merged fact.relation.target.name fact.target
      have startKept := finish.grows.index _ _ start.indexed
      obtain ⟨joinDevelops, joinPicture⟩ :=
        finish.sound.develops_setMergedEdge key startKept finish.indexed fact.attributes
      have merges := startDevelops.trans finishDevelops start.sound
      have mentioned := finishPicture.trans
        (congrArg (fun picture => Picture.mention picture key.finish) startPicture)
      refine ⟨merges.trans joinDevelops finish.sound, joinPicture.trans ?_⟩
      exact congrArg (fun picture => (Picture.join picture key).annotate key fact.attributes)
        mentioned

/-- Writing facts one after another. -/
theorem Sound.develops_foldl_write (sound : Sound store) {facts : List Fact}
    (plain : ∀ fact ∈ facts, keyProperty ∉ fact.attributes.keys) :
    Develops store (facts.foldl Store.write store) ∧
      (facts.foldl Store.write store).picture = facts.foldl Picture.write store.picture := by
  induction facts generalizing store with
  | nil => exact ⟨Develops.refl store, rfl⟩
  | cons fact facts induction =>
      obtain ⟨first, firstPicture⟩ := sound.develops_write (plain fact List.mem_cons_self)
      obtain ⟨rest, restPicture⟩ := induction (sound.write fact)
        fun later member => plain later (List.mem_cons_of_mem fact member)
      refine ⟨first.trans rest (sound.write fact), restPicture.trans ?_⟩
      rw [firstPicture]
      rfl

end Store

end CodeGraph
