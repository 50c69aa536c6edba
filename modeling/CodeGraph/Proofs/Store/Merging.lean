import CodeGraph.Proofs.OrderedMap
import CodeGraph.Proofs.Store.Reachable

/-!
# Merging and scanning

With a key among the properties, merging looks only at the node that is indexed under the
key.  As long as no two nodes share the key, this is the node that a scan finds.  Of two
nodes that do, only one is indexed: the other one is overlooked, and merging creates a third.
-/

namespace CodeGraph

/-! ## Values that agree with themselves -/

namespace PropertyValue

mutual

/-- Is every floating-point number in the value a number? -/
def isReal : PropertyValue → Bool
  | .float value => !value.isNaN
  | .list items => areReal items
  | .null | .bool _ | .int _ | .text _ => true

def areReal : List PropertyValue → Bool
  | [] => true
  | item :: items => isReal item && areReal items

end

mutual

theorem agrees_self : ∀ value : PropertyValue, value.isReal = true → value.agrees value = true
  | .float value, real => by
      have number : value.isNaN = false := by simpa [isReal] using real
      simp [agrees, Binary64.sameValue, number]
  | .list items, real => agreesLists_self items real
  | .null, _ => rfl
  | .bool _, _ => by simp [agrees]
  | .int _, _ => by simp [agrees]
  | .text _, _ => by simp [agrees]

theorem agreesLists_self : ∀ items : List PropertyValue, areReal items = true →
    agreesLists items items = true
  | [], _ => rfl
  | item :: items, real => by
      simp only [areReal, Bool.and_eq_true] at real
      simp only [agreesLists, Bool.and_eq_true]
      exact ⟨agrees_self item real.1, agreesLists_self items real.2⟩

end

end PropertyValue

namespace Properties

/-- Is every floating-point number among the properties a number? -/
def areReal (properties : Properties) : Bool :=
  properties.entries.all fun entry => entry.2.isReal

theorem includes_self {properties : Properties} (real : areReal properties = true) :
    includes properties properties = true := by
  rw [includes, List.all_eq_true]
  intro entry member
  rw [OrderedMap.find?_of_mem member]
  exact PropertyValue.agrees_self entry.2 (List.all_eq_true.mp real entry member)

theorem find?_of_includes {properties wanted : Properties} {key text : String}
    (included : includes properties wanted = true) (found : wanted.find? key = some (.text text)) :
    properties.find? key = some (.text text) := by
  have member := OrderedMap.mem_of_find? found
  have agrees := List.all_eq_true.mp included (key, .text text) member
  cases here : properties.find? key with
  | none => simp [here] at agrees
  | some value =>
      -- only a text agrees with a text
      cases value <;> simp [here, PropertyValue.agrees] at agrees
      rw [agrees]

end Properties

namespace StoredNode

theorem matchesPattern_iff {node : StoredNode} {label : String} {properties : Properties} :
    node.matchesPattern (some label) properties = true ↔
      label = node.label ∧ Properties.includes node.properties properties = true := by
  simp [matchesPattern]

/-- What matches properties with a key has the key. -/
theorem key?_of_matchesPattern {node : StoredNode} {label key : String}
    {properties : Properties} (fits : node.matchesPattern (some label) properties = true)
    (keyed : Properties.key? properties = some key) : node.key? = some (label, key) := by
  obtain ⟨sameLabel, included⟩ := matchesPattern_iff.mp fits
  obtain ⟨value, found, text⟩ := Option.bind_eq_some_iff.mp keyed
  have wanted : properties.find? keyProperty = some (.text key) := by
    cases value <;> simp [PropertyValue.asText?] at text
    rw [found, text]
  rw [key?_eq_some_iff]
  exact ⟨sameLabel.symm, Properties.find?_of_includes included wanted⟩

end StoredNode

namespace Store

variable {store after : Store} {key : String × String}

/-! ## Every key is indexed -/

/-- No two nodes have the label and the textual key. -/
def Unshared (store : Store) (key : String × String) : Prop :=
  ∀ left right leftNode rightNode, store.node? left = some leftNode →
    store.node? right = some rightNode → leftNode.key? = some key →
    rightNode.key? = some key → left = right

/-- If nodes have the label and the textual key, one of them is indexed. -/
def Covered (store : Store) (key : String × String) : Prop :=
  ∀ cell node, store.node? cell = some node → node.key? = some key →
    (store.index[key]?).isSome = true

theorem unshared_of_size_le (small : store.nodes.cells.size ≤ 1) : Unshared store key := by
  intro left right leftNode rightNode leftLive rightLive _ _
  have leftInside := Arena.lt_size_of_get? leftLive
  have rightInside := Arena.lt_size_of_get? rightLive
  omega

theorem unshared_empty : Unshared empty key := unshared_of_size_le (Nat.zero_le 1)

theorem covered_empty : Covered empty key := by
  intro cell node live
  simp [empty, node?] at live

namespace Covered

theorem of_same (covered : Covered store key) (nodes : after.node? = store.node?)
    (index : after.index = store.index) : Covered after key := by
  intro cell node live keyed
  rw [nodes] at live
  rw [index]
  exact covered cell node live keyed

theorem createNode (covered : Covered store key) (label : String) (properties : Properties) :
    Covered (store.createNode label properties).2 key := by
  intro cell node live keyed
  rw [node?_createNode] at live
  rw [index_createNode, getElem?_claimKey]
  split
  next => rfl
  next unclaimed =>
    split at live
    next =>
      cases live
      have indexed : store.index[key]? ≠ none := fun absent => unclaimed ⟨keyed, absent⟩
      exact Option.isSome_iff_ne_none.mpr indexed
    next => exact covered cell node live keyed

theorem mergeNode (covered : Covered store key) (label : String) (properties : Properties) :
    Covered (store.mergeNode label properties).2 key := by
  unfold Store.mergeNode
  split
  · exact covered
  · exact covered.createNode label properties

theorem mergeEdge (covered : Covered store key) (source target : Nat) (type : String)
    (properties : Properties) :
    Covered (store.mergeEdge source target type properties).2 key := by
  unfold Store.mergeEdge
  split
  · exact covered
  · exact covered.of_same rfl rfl

/-- A node that does not share its key is the one that is indexed. -/
theorem indexed (covered : Covered store key) (sound : Sound store)
    (unshared : Unshared store key) {cell : Nat} {node : StoredNode}
    (live : store.node? cell = some node) (keyed : node.key? = some key) :
    store.index[key]? = some cell := by
  obtain ⟨other, found⟩ := Option.isSome_iff_exists.mp (covered cell node live keyed)
  obtain ⟨otherNode, otherLive, otherKeyed⟩ := sound.indexed key other found
  have same : other = cell := unshared other cell otherNode node otherLive live otherKeyed keyed
  rw [found, same]

/-- Another node than the one that releases its key stays indexed. -/
theorem releaseKey (covered : Covered store key) (sound : Sound store)
    (unshared : Unshared store key) {cell other : Nat} {node : StoredNode}
    (released : Option (String × String)) (different : other ≠ cell)
    (live : store.node? other = some node) (keyed : node.key? = some key) :
    (releaseKey store.index released cell)[key]? = some other := by
  have found := covered.indexed sound unshared live keyed
  rw [getElem?_releaseKey, if_neg]
  · exact found
  · rintro ⟨-, owned⟩
    rw [found] at owned
    exact different (Option.some.inj owned)

theorem setNode (covered : Covered store key) (sound : Sound store)
    (unshared : Unshared store key) (cell : Nat) (changes : Properties) :
    Covered (store.setNode cell changes) key := by
  cases live : store.node? cell with
  | none =>
      have unchanged : store.setNode cell changes = store := by
        unfold Store.setNode
        rw [live]
      rw [unchanged]
      exact covered
  | some node =>
      intro other otherNode otherLive keyed
      rw [node?_setNode] at otherLive
      rw [index_setNode changes live]
      dsimp only
      by_cases here : other = cell
      · subst other
        rw [if_pos rfl, live] at otherLive
        cases otherLive
        split
        next same => exact covered cell node live (same.trans keyed)
        next different =>
          rw [getElem?_claimKey]
          split
          next => rfl
          next unclaimed =>
            exact Option.isSome_iff_ne_none.mpr fun absent => unclaimed ⟨keyed, absent⟩
      · rw [if_neg here] at otherLive
        split
        next => exact covered other otherNode otherLive keyed
        next =>
          have kept := covered.releaseKey sound unshared node.key? here otherLive keyed
          rw [getElem?_claimKey, kept]
          simp

theorem deleteNode (covered : Covered store key) (sound : Sound store)
    (unshared : Unshared store key) {cell : Nat} {detach : Bool}
    (deleted : store.deleteNode cell detach = .ok after) : Covered after key := by
  cases live : store.node? cell with
  | none =>
      simp only [Store.deleteNode, live] at deleted
      cases deleted
      exact covered
  | some node =>
      rw [deleteNode_of_node? detach live] at deleted
      split at deleted
      · cases deleted
      · cases deleted
        intro other otherNode otherLive keyed
        have erased : ((store.isolate cell).nodes.erase cell).get? other = some otherNode :=
          otherLive
        rw [nodes_isolate, Arena.get?_erase] at erased
        split at erased
        · cases erased
        next elsewhere =>
          have kept := covered.releaseKey sound unshared node.key? elsewhere erased keyed
          rw [← index_isolate store cell] at kept
          exact Option.isSome_iff_exists.mpr ⟨other, kept⟩

end Covered

theorem Step.covered (step : Step store after) (sound : Sound store)
    (unshared : Unshared store key) (covered : Covered store key) : Covered after key := by
  cases step with
  | createNode label properties => exact covered.createNode label properties
  | mergeNode label properties => exact covered.mergeNode label properties
  | setNode cell changes => exact covered.setNode sound unshared cell changes
  | deleteNode deleted => exact covered.deleteNode sound unshared deleted
  | createEdge type properties => exact covered.of_same rfl rfl
  | mergeEdge type properties => exact covered.mergeEdge _ _ type properties
  | setEdge cell changes => exact covered.of_same rfl rfl
  | deleteEdge cell => exact covered.of_same rfl rfl
  | clear => exact covered_empty
  | load loaded =>
      apply load_induction (motive := (Covered · key)) _ _ covered_empty loaded
      · intro _ label properties covered
        exact covered.createNode label properties
      · intro _ _ _ _ _ _ _ covered
        exact covered.of_same rfl rfl

/-! ## Stores on whose way a property holds -/

/-- A store that operations lead to, the property holding of every store on the way. -/
inductive ReachableWithin (allowed : Store → Prop) : Store → Prop where
  | empty : ReachableWithin allowed empty
  | step {store after : Store} : ReachableWithin allowed store → Step store after →
      allowed after → ReachableWithin allowed after

namespace ReachableWithin

variable {allowed : Store → Prop}

theorem reachable (within : ReachableWithin allowed store) : Reachable store := by
  induction within with
  | empty => exact .empty
  | step _ step _ induction => exact induction.step step

theorem holds (within : ReachableWithin allowed store) (start : allowed Store.empty) :
    allowed store := by
  cases within with
  | empty => exact start
  | step _ _ holds => exact holds

end ReachableWithin

/-! ## Merging finds what a scan finds -/

variable {label : String} {properties : Properties}

/-- With a key among the properties, only the node that is indexed under it is found. -/
theorem findNode?_eq_some_iff_of_key? {name : String} {cell : Nat}
    (keyed : Properties.key? properties = some name) :
    store.findNode? label properties = some cell ↔
      store.index[(label, name)]? = some cell ∧
        cell ∈ store.matchNodes (some label) properties := by
  constructor
  · intro found
    refine ⟨?_, mem_matchNodes_of_findNode? found⟩
    unfold findNode? at found
    rw [keyed] at found
    dsimp only at found
    split at found
    next other indexed =>
      split at found
      next node live =>
        split at found
        next => rw [indexed, found]
        next => cases found
      next => cases found
    next => cases found
  · rintro ⟨indexed, member⟩
    obtain ⟨node, live, fits⟩ := mem_matchNodes.mp member
    unfold findNode?
    rw [keyed]
    dsimp only
    rw [indexed]
    dsimp only
    rw [live]
    exact if_pos fits

theorem findNode?_eq_none_iff_of_key? {name : String}
    (keyed : Properties.key? properties = some name) :
    store.findNode? label properties = none ↔
      ∀ cell, store.index[(label, name)]? = some cell →
        cell ∉ store.matchNodes (some label) properties := by
  rw [Option.eq_none_iff_forall_ne_some]
  constructor
  · intro missing cell indexed member
    exact missing cell ((findNode?_eq_some_iff_of_key? keyed).mpr ⟨indexed, member⟩)
  · intro overlooked cell found
    obtain ⟨indexed, member⟩ := (findNode?_eq_some_iff_of_key? keyed).mp found
    exact overlooked cell indexed member

theorem mergeNode_of_findNode?_eq_none (missing : store.findNode? label properties = none) :
    store.mergeNode label properties = store.createNode label properties := by
  rw [mergeNode, missing]

theorem mem_matchNodes_createNode {cell : Nat} (real : Properties.areReal properties = true) :
    cell ∈ (store.createNode label properties).2.matchNodes (some label) properties ↔
      cell = store.nodes.next ∨ cell ∈ store.matchNodes (some label) properties := by
  rw [mem_matchNodes, mem_matchNodes, node?_createNode]
  by_cases here : cell = store.nodes.next
  · have fits : StoredNode.matchesPattern ⟨label, properties⟩ (some label) properties = true :=
      StoredNode.matchesPattern_iff.mpr ⟨rfl, Properties.includes_self real⟩
    rw [if_pos here]
    exact iff_of_true ⟨_, rfl, fits⟩ (.inl here)
  · rw [if_neg here]
    exact (or_iff_right here).symm

/-- No two nodes share the key that is among the properties, if there is one. -/
def KeyUnshared (label : String) (properties : Properties) (store : Store) : Prop :=
  ∀ name, Properties.key? properties = some name → Unshared store (label, name)

namespace ReachableWithin

theorem unshared (within : ReachableWithin (KeyUnshared label properties) store) :
    KeyUnshared label properties store :=
  within.holds fun _ _ => unshared_empty

theorem covered (within : ReachableWithin (KeyUnshared label properties) store)
    {name : String} (keyed : Properties.key? properties = some name) :
    Covered store (label, name) := by
  induction within with
  | empty => exact covered_empty
  | step before step _ induction =>
      exact step.covered before.reachable.sound (before.unshared name keyed) induction

theorem isSome_findNode?_iff (within : ReachableWithin (KeyUnshared label properties) store) :
    (store.findNode? label properties).isSome = true ↔
      store.matchNodes (some label) properties ≠ [] := by
  constructor
  · intro found
    obtain ⟨cell, found⟩ := Option.isSome_iff_exists.mp found
    exact List.ne_nil_of_mem (mem_matchNodes_of_findNode? found)
  · intro nonempty
    cases keyed : Properties.key? properties with
    | none =>
        unfold findNode?
        rw [keyed]
        simpa using nonempty
    | some name =>
        obtain ⟨cell, member⟩ := List.exists_mem_of_ne_nil _ nonempty
        obtain ⟨node, live, fits⟩ := mem_matchNodes.mp member
        have indexed : store.index[(label, name)]? = some cell :=
          (within.covered keyed).indexed within.reachable.sound (within.unshared name keyed) live
            (StoredNode.key?_of_matchesPattern fits keyed)
        have found := (findNode?_eq_some_iff_of_key? keyed).mpr ⟨indexed, member⟩
        rw [found]
        rfl

theorem findNode?_eq_none_iff (within : ReachableWithin (KeyUnshared label properties) store) :
    store.findNode? label properties = none ↔ store.matchNodes (some label) properties = [] := by
  rw [← Option.not_isSome_iff_eq_none, within.isSome_findNode?_iff]
  exact Decidable.not_not

/-- The node that merging leads to is found by the next merging. -/
theorem findNode?_mergeNode (within : ReachableWithin (KeyUnshared label properties) store)
    (real : Properties.areReal properties = true)
    (unshared : KeyUnshared label properties (store.mergeNode label properties).2) :
    (store.mergeNode label properties).2.findNode? label properties =
      some (store.mergeNode label properties).1 := by
  have later := within.step (.mergeNode store label properties) unshared
  cases found : store.findNode? label properties with
  | some cell =>
      have kept : store.mergeNode label properties = (cell, store) := by
        rw [mergeNode, found]
      rw [kept, found]
  | none =>
      have created := mergeNode_of_findNode?_eq_none found
      have nothing := within.findNode?_eq_none_iff.mp found
      rw [created] at later ⊢
      have new : store.nodes.next ∈
          (store.createNode label properties).2.matchNodes (some label) properties :=
        (mem_matchNodes_createNode real).mpr (.inl rfl)
      obtain ⟨cell, again⟩ :=
        Option.isSome_iff_exists.mp (later.isSome_findNode?_iff.mpr (List.ne_nil_of_mem new))
      have member := mem_matchNodes_of_findNode? again
      rw [mem_matchNodes_createNode real, nothing] at member
      rcases member with here | before
      · rw [again, here]
        rfl
      · cases before

/-- As long as no two nodes share the key, merging takes a node that a scan finds, creates a
node only if there is none, and creates no further one when it is repeated. -/
theorem mergeNode_agrees (within : ReachableWithin (KeyUnshared label properties) store)
    (real : Properties.areReal properties = true) :
    ((store.findNode? label properties).isSome = true ↔
      store.matchNodes (some label) properties ≠ []) ∧
    (store.matchNodes (some label) properties ≠ [] →
      (store.mergeNode label properties).1 ∈ store.matchNodes (some label) properties ∧
      (store.mergeNode label properties).2 = store) ∧
    (store.matchNodes (some label) properties = [] →
      store.mergeNode label properties = store.createNode label properties) ∧
    (KeyUnshared label properties (store.mergeNode label properties).2 →
      (store.mergeNode label properties).2.mergeNode label properties =
        store.mergeNode label properties) := by
  refine ⟨within.isSome_findNode?_iff, ?_, ?_, ?_⟩
  · intro nonempty
    obtain ⟨cell, found⟩ :=
      Option.isSome_iff_exists.mp (within.isSome_findNode?_iff.mpr nonempty)
    rw [mergeNode, found]
    exact ⟨mem_matchNodes_of_findNode? found, rfl⟩
  · intro nothing
    exact mergeNode_of_findNode?_eq_none (within.findNode?_eq_none_iff.mpr nothing)
  · intro unshared
    have found := within.findNode?_mergeNode real unshared
    rw [mergeNode, found]

theorem mergeNode_agrees_rekeyed :
    let key (name : String) : Properties := OrderedMap.ofList [(keyProperty, .text name)]
    let store := (Store.empty.createNode "Type" (key "a")).2.setNode 0 (key "b")
    ReachableWithin (KeyUnshared "Type" (key "b")) store ∧
    Properties.areReal (key "b") = true ∧
    store.mergeNode "Type" (key "b") = (0, store) ∧
    KeyUnshared "Type" (key "b") (store.mergeNode "Type" (key "b")).2 := by
  intro key store
  have small : ∀ name, Unshared store name := fun _ => unshared_of_size_le (by decide)
  have within : ReachableWithin (KeyUnshared "Type" (key "b")) store := by
    apply step _ (.setNode _ 0 _) fun name _ => small ("Type", name)
    apply step .empty (.createNode _ _ _)
    exact fun name _ => unshared_of_size_le (by decide)
  have matching : store.matchNodes (some "Type") (key "b") = [0] := rfl
  obtain ⟨member, kept⟩ := (within.mergeNode_agrees rfl).2.1 (by simp [matching])
  rw [matching, List.mem_singleton] at member
  refine ⟨within, rfl, Prod.ext member kept, ?_⟩
  rw [kept]
  exact fun name _ => small ("Type", name)

end ReachableWithin

/-- Two nodes with one key come from merging alone, and the second is never found. -/
theorem mergeNode_overlooks :
    let plain : Properties := OrderedMap.ofList [(keyProperty, .text "x")]
    let numbered : Properties := OrderedMap.ofList [(keyProperty, .text "x"), ("n", .int 1)]
    let store := ((empty.mergeNode "T" plain).2.mergeNode "T" numbered).2
    Reachable store ∧ Properties.areReal numbered = true ∧
    store.matchNodes (some "T") numbered = [1] ∧
    store.findNode? "T" numbered = none ∧
    (store.mergeNode "T" numbered).1 = 2 := by
  intro plain numbered store
  have plainKey : Properties.key? plain = some "x" := rfl
  have numberedKey : Properties.key? numbered = some "x" := rfl
  have firstMissing : empty.findNode? "T" plain = none := by
    rw [findNode?_eq_none_iff_of_key? plainKey]
    intro cell indexed
    simp [empty] at indexed
  let one := (empty.createNode "T" plain).2
  have indexOne : one.index[("T", "x")]? = some 0 := by
    rw [index_createNode, getElem?_claimKey, if_pos]
    · rfl
    · exact ⟨rfl, by simp [empty]⟩
  have secondMissing : one.findNode? "T" numbered = none := by
    rw [findNode?_eq_none_iff_of_key? numberedKey]
    intro cell indexed
    have nothing : one.matchNodes (some "T") numbered = [] := by rfl
    rw [nothing]
    exact List.not_mem_nil
  have created : store = (one.createNode "T" numbered).2 := by
    change ((empty.mergeNode "T" plain).2.mergeNode "T" numbered).2 = _
    rw [mergeNode_of_findNode?_eq_none firstMissing, mergeNode_of_findNode?_eq_none secondMissing]
  have matching : store.matchNodes (some "T") numbered = [1] := by
    rw [created]
    rfl
  have thirdMissing : store.findNode? "T" numbered = none := by
    rw [findNode?_eq_none_iff_of_key? numberedKey, matching]
    intro cell indexed
    rw [created, index_createNode, getElem?_claimKey, indexOne] at indexed
    simp at indexed
    simp [← indexed]
  refine ⟨?_, rfl, matching, thirdMissing, ?_⟩
  · exact .step (.step .empty (.mergeNode _ _ _)) (.mergeNode _ _ _)
  · rw [mergeNode_of_findNode?_eq_none thirdMissing, created]
    rfl

end Store

end CodeGraph
