import CodeGraph.Proofs.Loader.Embedded
import CodeGraph.Proofs.Store.Picture
import CodeGraph.Proofs.Store.Reachable

/-!
# The graph of a run

A run onto a store without nodes leaves the graph of the admitted facts: a node for every
name that they are about, a relationship for every pair that they connect, and on both the
attributes of the first fact with the key.
-/

namespace CodeGraph

/-- The nodes that a fact with the key is about. -/
def FactKey.nodes : FactKey → List NodeKey
  | .node label name => [⟨label, name⟩]
  | .edge relation source target => [⟨relation.source, source⟩, ⟨relation.target, target⟩]

/-- The key of the facts that set the attributes of a node. -/
def NodeKey.factKey (key : NodeKey) : FactKey := .node key.label key.name

/-- The key of the facts that set the attributes of a relationship. -/
def EdgeKey.factKey (key : EdgeKey) : FactKey := .edge key.relation key.source key.target

theorem NodeKey.key_eq_factKey_iff {fact : NodeFact} {key : NodeKey} :
    (Fact.node fact).key = key.factKey ↔ key = ⟨fact.label, fact.name⟩ := by
  cases key
  simp only [Fact.key, factKey, FactKey.node.injEq, NodeKey.mk.injEq]
  exact and_congr eq_comm eq_comm

theorem EdgeKey.key_eq_factKey_iff {fact : EdgeFact} {key : EdgeKey} :
    (Fact.edge fact).key = key.factKey ↔ key = ⟨fact.relation, fact.source, fact.target⟩ := by
  cases key
  simp only [Fact.key, factKey, FactKey.edge.injEq, EdgeKey.mk.injEq]
  exact and_congr eq_comm (and_congr eq_comm eq_comm)

/-- The attributes of the first fact with a key, if there is one. -/
def Fact.attributesOf (facts : List Fact) (key : FactKey) : Attributes :=
  ((facts.find? fun fact => fact.key = key).map Fact.attributes).getD OrderedMap.empty

/-- The graph of a list of facts. -/
def Picture.ofFacts (facts : List Fact) : Picture where
  mentions key := ∃ fact ∈ facts, key ∈ fact.key.nodes
  described key := Properties.ofNode key.name (Fact.attributesOf facts key.factKey)
  joins key := ∃ fact ∈ facts, fact.key = key.factKey
  annotated key := (Fact.attributesOf facts key.factKey).toProperties

namespace Fact

variable {facts : List Fact} {fact : Fact} {key : FactKey}

private theorem find?_of_not_mem (absent : key ∉ facts.map Fact.key) :
    (facts.find? fun fact => fact.key = key) = none := by
  rw [List.find?_eq_none]
  intro other member same
  exact absent (List.mem_map.mpr ⟨other, member, of_decide_eq_true same⟩)

theorem attributesOf_of_not_mem (absent : key ∉ facts.map Fact.key) :
    attributesOf facts key = OrderedMap.empty := by
  unfold attributesOf
  rw [find?_of_not_mem absent]
  rfl

/-- A later fact changes nothing for a key that has come before. -/
theorem attributesOf_concat_of_mem (present : key ∈ facts.map Fact.key) :
    attributesOf (facts ++ [fact]) key = attributesOf facts key := by
  have found : (facts.find? fun fact => fact.key = key).isSome = true := by
    obtain ⟨other, member, same⟩ := List.mem_map.mp present
    rw [List.find?_isSome]
    exact ⟨other, member, decide_eq_true same⟩
  obtain ⟨first, same⟩ := Option.isSome_iff_exists.mp found
  unfold attributesOf
  rw [List.find?_append, same]
  rfl

theorem attributesOf_concat_of_ne (different : fact.key ≠ key) :
    attributesOf (facts ++ [fact]) key = attributesOf facts key := by
  have missing : ([fact].find? fun fact => fact.key = key) = none := by
    simp [different]
  unfold attributesOf
  rw [List.find?_append, missing, Option.or_none]

theorem attributesOf_concat_self (fresh : fact.key ∉ facts.map Fact.key) :
    attributesOf (facts ++ [fact]) fact.key = fact.attributes := by
  unfold attributesOf
  rw [List.find?_append, find?_of_not_mem fresh]
  simp

end Fact

namespace Picture

variable {facts : List Fact}

/-- A fact with a key that has come before adds nothing. -/
theorem ofFacts_concat_of_mem {fact : Fact} (present : fact.key ∈ facts.map Fact.key) :
    ofFacts (facts ++ [fact]) = ofFacts facts := by
  obtain ⟨first, firstMember, same⟩ := List.mem_map.mp present
  have attributes : ∀ key,
      Fact.attributesOf (facts ++ [fact]) key = Fact.attributesOf facts key := by
    intro key
    by_cases here : fact.key = key
    · exact Fact.attributesOf_concat_of_mem (here ▸ present)
    · exact Fact.attributesOf_concat_of_ne here
  have through : ∀ property : FactKey → Prop,
      (∃ other ∈ facts ++ [fact], property other.key) ↔ ∃ other ∈ facts, property other.key := by
    intro property
    constructor
    · rintro ⟨other, member, holds⟩
      rcases List.mem_append.mp member with before | last
      · exact ⟨other, before, holds⟩
      · rw [List.mem_singleton.mp last, ← same] at holds
        exact ⟨first, firstMember, holds⟩
    · rintro ⟨other, member, holds⟩
      exact ⟨other, List.mem_append_left _ member, holds⟩
  apply Picture.ext <;> funext key
  · exact propext (through fun other => key ∈ other.nodes)
  · exact congrArg (Properties.ofNode key.name) (attributes key.factKey)
  · exact propext (through fun other => other = key.factKey)
  · exact congrArg OrderedMap.toProperties (attributes key.factKey)

theorem ofFacts_concat_node {fact : NodeFact}
    (fresh : (Fact.node fact).key ∉ facts.map Fact.key) :
    ofFacts (facts ++ [.node fact]) =
      ((ofFacts facts).mention ⟨fact.label, fact.name⟩).describe ⟨fact.label, fact.name⟩
        fact.attributes := by
  apply Picture.ext <;> funext key
  · apply propext
    change (∃ other ∈ facts ++ [.node fact], key ∈ other.key.nodes) ↔
      (∃ other ∈ facts, key ∈ other.key.nodes) ∨ key = ⟨fact.label, fact.name⟩
    simp [or_and_right, exists_or, Fact.key, FactKey.nodes]
  · change Properties.ofNode key.name (Fact.attributesOf _ key.factKey) =
      if key = ⟨fact.label, fact.name⟩ then
        Properties.overlay
          (Properties.ofNode fact.name (Fact.attributesOf facts (Fact.node fact).key))
          fact.attributes.toProperties
      else Properties.ofNode key.name (Fact.attributesOf facts key.factKey)
    split
    next same =>
      subst key
      change Properties.ofNode fact.name (Fact.attributesOf _ (Fact.node fact).key) = _
      rw [Fact.attributesOf_concat_self fresh, Fact.attributesOf_of_not_mem fresh,
        Properties.ofNode_empty, Properties.overlay_named]
      rfl
    next different =>
      rw [Fact.attributesOf_concat_of_ne (mt NodeKey.key_eq_factKey_iff.mp different)]
  · apply propext
    change (∃ other ∈ facts ++ [.node fact], other.key = key.factKey) ↔
      ∃ other ∈ facts, other.key = key.factKey
    simp [or_and_right, exists_or, Fact.key, EdgeKey.factKey]
  · have otherKey : (Fact.node fact).key ≠ key.factKey := by
      intro same
      cases same
    exact congrArg OrderedMap.toProperties (Fact.attributesOf_concat_of_ne otherKey)

theorem ofFacts_concat_edge {fact : EdgeFact}
    (fresh : (Fact.edge fact).key ∉ facts.map Fact.key) :
    let key : EdgeKey := ⟨fact.relation, fact.source, fact.target⟩
    ofFacts (facts ++ [.edge fact]) =
      ((((ofFacts facts).mention key.start).mention key.finish).join key).annotate key
        fact.attributes := by
  intro edgeKey
  apply Picture.ext <;> funext key
  · apply propext
    change (∃ other ∈ facts ++ [.edge fact], key ∈ other.key.nodes) ↔
      ((∃ other ∈ facts, key ∈ other.key.nodes) ∨ key = edgeKey.start) ∨ key = edgeKey.finish
    simp [or_and_right, exists_or, or_assoc, Fact.key, FactKey.nodes, EdgeKey.start,
      EdgeKey.finish, edgeKey]
  · have otherKey : (Fact.edge fact).key ≠ key.factKey := by
      intro same
      cases same
    exact congrArg (Properties.ofNode key.name) (Fact.attributesOf_concat_of_ne otherKey)
  · apply propext
    change (∃ other ∈ facts ++ [.edge fact], other.key = key.factKey) ↔
      (∃ other ∈ facts, other.key = key.factKey) ∨ key = edgeKey
    simp [or_and_right, exists_or, EdgeKey.key_eq_factKey_iff, edgeKey]
  · change (Fact.attributesOf _ key.factKey).toProperties =
      if key = edgeKey then
        Properties.overlay (Fact.attributesOf facts (Fact.edge fact).key).toProperties
          fact.attributes.toProperties
      else (Fact.attributesOf facts key.factKey).toProperties
    split
    next same =>
      subst key
      change (Fact.attributesOf _ (Fact.edge fact).key).toProperties = _
      rw [Fact.attributesOf_concat_self fresh, Fact.attributesOf_of_not_mem fresh,
        OrderedMap.toProperties_empty, Properties.overlay_empty]
      rfl
    next different =>
      rw [Fact.attributesOf_concat_of_ne (mt EdgeKey.key_eq_factKey_iff.mp different)]

end Picture

namespace Store

variable {store : Store} {facts : List Fact}

theorem described_ofFacts {key : NodeKey} (unmentioned : ¬(Picture.ofFacts facts).mentions key) :
    (Picture.ofFacts facts).described key = Properties.named key.name := by
  have absent : key.factKey ∉ facts.map Fact.key := by
    intro present
    obtain ⟨fact, member, same⟩ := List.mem_map.mp present
    apply unmentioned
    refine ⟨fact, member, ?_⟩
    rw [same]
    exact List.mem_singleton.mpr rfl
  change Properties.ofNode key.name (Fact.attributesOf facts key.factKey) = _
  rw [Fact.attributesOf_of_not_mem absent, Properties.ofNode_empty]

theorem annotated_ofFacts {key : EdgeKey} (unjoined : ¬(Picture.ofFacts facts).joins key) :
    (Picture.ofFacts facts).annotated key = OrderedMap.empty := by
  have absent : key.factKey ∉ facts.map Fact.key := by
    intro present
    obtain ⟨fact, member, same⟩ := List.mem_map.mp present
    exact unjoined ⟨fact, member, same⟩
  change (Fact.attributesOf facts key.factKey).toProperties = _
  rw [Fact.attributesOf_of_not_mem absent, OrderedMap.toProperties_empty]

/-- Writing a fact with a new key adds the fact to the graph. -/
theorem Depicts.write {fact : Fact} (depicts : Depicts store (Picture.ofFacts facts))
    (plain : keyProperty ∉ fact.attributes.keys) (fresh : fact.key ∉ facts.map Fact.key) :
    Depicts (store.write fact) (Picture.ofFacts (facts ++ [fact])) := by
  cases fact with
  | node fact =>
      let key : NodeKey := ⟨fact.label, fact.name⟩
      have merged := depicts.mergeNode key described_ofFacts
      have found := (depicts.sound.merged fact.label.name fact.name).indexed
      rw [Picture.ofFacts_concat_node fresh]
      exact merged.setNode (show _ = some _ from found) plain
  | edge fact =>
      let key : EdgeKey := ⟨fact.relation, fact.source, fact.target⟩
      have first := depicts.mergeNode key.start described_ofFacts
      have start := depicts.sound.merged fact.relation.source.name fact.source
      have second := first.mergeNode key.finish fun unmentioned =>
        described_ofFacts fun mentioned => unmentioned (Or.inl mentioned)
      have finish := start.sound.merged fact.relation.target.name fact.target
      have startKept := finish.grows.index _ _ start.indexed
      obtain ⟨edge, joined, live, visible⟩ :=
        second.mergeEdge key startKept finish.indexed annotated_ofFacts
      rw [Picture.ofFacts_concat_edge fresh]
      exact joined.setEdge fact.attributes live visible

/-- Writing the first facts after others with keys that have been seen adds all facts. -/
theorem Depicts.foldl_firsts {later : List Fact} {seen : List FactKey}
    (depicts : Depicts store (Picture.ofFacts facts))
    (same : ∀ key, key ∈ seen ↔ key ∈ facts.map Fact.key)
    (plain : ∀ fact ∈ later, keyProperty ∉ fact.attributes.keys) :
    Depicts ((Fact.firsts seen later).foldl Store.write store)
      (Picture.ofFacts (facts ++ later)) := by
  induction later generalizing store facts seen with
  | nil =>
      rw [List.append_nil]
      exact depicts
  | cons fact later induction =>
      have restPlain : ∀ other ∈ later, keyProperty ∉ other.attributes.keys :=
        fun other member => plain other (List.mem_cons_of_mem fact member)
      rw [Fact.firsts, List.append_cons]
      split
      next before =>
        have known := (same fact.key).mp before
        apply induction
        · rw [Picture.ofFacts_concat_of_mem known]
          exact depicts
        · intro key
          rw [same, List.map_append, List.mem_append]
          constructor
          · exact Or.inl
          · rintro (old | last)
            · exact old
            · rw [List.mem_singleton.mp last]
              exact known
        · exact restPlain
      next fresh =>
        have new : fact.key ∉ facts.map Fact.key := fun old => fresh ((same fact.key).mpr old)
        apply induction
        · exact depicts.write (plain fact List.mem_cons_self) new
        · intro key
          rw [List.mem_cons, same, List.map_append, List.mem_append, or_comm]
          simp
        · exact restPlain

/-- A store without nodes has the graph of no facts. -/
theorem Sound.depicts_of_no_nodes (sound : Sound store)
    (vacant : ∀ cell, store.node? cell = none) : Depicts store (Picture.ofFacts []) := by
  have noIndex : ∀ key : String × String, store.index[key]? = none := by
    intro key
    cases found : store.index[key]? with
    | none => rfl
    | some cell =>
        obtain ⟨node, live, -⟩ := sound.indexed key cell found
        rw [show store.nodes.get? cell = none from vacant cell] at live
        cases live
  have noEdge : ∀ cell edge, store.edges.get? cell ≠ some edge := by
    intro cell edge live
    have start := sound.sources cell edge live
    rw [vacant] at start
    cases start
  exact
    { sound
      indexed := by
        intro key
        rw [noIndex]
        simp [Picture.ofFacts]
      nodes := by
        intro cell node live
        rw [vacant] at live
        cases live
      edges := fun cell edge live => (noEdge cell edge live).elim
      joined := by
        rintro key ⟨fact, member, -⟩
        cases member
      single := fun left _ leftEdge _ leftLive => (noEdge left leftEdge leftLive).elim }

end Store

/-- A run onto a reachable store without nodes, of facts none of which sets the key, succeeds
and leaves the graph of the admitted facts, whatever the size of the batches. -/
theorem Session.load_holds {session : EmbeddedSession} (ready : session.state = .ready)
    (reachable : Store.Reachable session.store)
    (vacant : ∀ cell, session.store.node? cell = none) (filter : Filter) (batchSize : Nat)
    {facts : List Fact} (plain : ∀ fact ∈ facts, keyProperty ∉ fact.attributes.keys) :
    ∃ stats store,
      Loader.load accessor filter batchSize [] facts (.embedded session) =
        (.ok stats, .embedded { session with store }) ∧
      store.Holds (Picture.ofFacts (facts.filter filter.admitsFact)) := by
  have blank := reachable.sound.depicts_of_no_nodes vacant
  have admittedPlain : ∀ fact ∈ facts.filter filter.admitsFact,
      keyProperty ∉ fact.attributes.keys :=
    fun fact member => plain fact (List.mem_filter.mp member).1
  have depicts := blank.foldl_firsts (fun _ => Iff.rfl) admittedPlain
  obtain ⟨stats, loaded⟩ := load_eq_write ready filter batchSize facts
  exact ⟨stats, _, loaded, depicts.holds⟩

/-- A relationship comes before the node that it starts at, a node comes twice, and a name
has quotes and a dollar sign in it. -/
theorem Session.load_holds_quoted :
    let session : EmbeddedSession := { path := "store", state := .ready }
    let invokes : EdgeFact := ⟨.invokes, "a.f", "$b'\"g", OrderedMap.ofList [("line", .int 3)]⟩
    let declared (arity : Int64) : NodeFact :=
      ⟨.method, "a.f", OrderedMap.ofList [("arity", .int arity)]⟩
    let facts : List Fact := [.edge invokes, .node (declared 1), .node (declared 2)]
    ∃ stats store,
      Loader.load accessor (Filter.empty false) 2 [] facts (.embedded session) =
        (.ok stats, .embedded { session with store }) ∧
      store.Holds (Picture.ofFacts (facts.filter (Filter.empty false).admitsFact)) := by
  intro session invokes declared facts
  have vacant : ∀ cell, session.store.node? cell = none := fun cell => Arena.get?_empty cell
  have plain : ∀ fact ∈ facts, keyProperty ∉ fact.attributes.keys := by decide
  exact load_holds rfl .empty vacant (Filter.empty false) 2 plain

end CodeGraph
