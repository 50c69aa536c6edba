import CodeGraph.Proofs.Store.Picture
import Mathlib.Data.Set.Function

/-!
# Layouts

What a store finds under a key lies in a cell.  A layout develops into another one when what is
found stays where it is, what is new lies in cells that were empty, and the cells that no key
leads to are left alone.  Merging and setting develop a store, and they change its picture in
the way that their names say.
-/

namespace CodeGraph

/-- Values in numbered cells, some of which are found under a key. -/
structure Layout (κ α : Type) where
  find? : κ → Option Nat
  get? : Nat → Option α

namespace Layout

variable {κ α : Type} {base left right : Layout κ α}

/-- Keys lead to cells in use, and different keys to different cells. -/
structure Proper (layout : Layout κ α) : Prop where
  filled : ∀ key cell, layout.find? key = some cell → (layout.get? cell).isSome = true
  distinct : ∀ key other cell, layout.find? key = some cell → layout.find? other = some cell →
    key = other

/-- The second layout has come out of the first. -/
structure Develops (before after : Layout κ α) : Prop where
  kept : ∀ key cell, before.find? key = some cell → after.find? key = some cell
  fresh : ∀ key cell, after.find? key = some cell →
    before.find? key = some cell ∨ before.get? cell = none
  others : ∀ cell, (∀ key, after.find? key ≠ some cell) → after.get? cell = before.get? cell

theorem Develops.refl (layout : Layout κ α) : Develops layout layout where
  kept := fun _ _ found => found
  fresh := fun _ _ found => .inl found
  others := fun _ _ => rfl

theorem Develops.trans {first second third : Layout κ α} (start : Develops first second)
    (rest : Develops second third) (proper : second.Proper) : Develops first third where
  kept := fun key cell found => rest.kept key cell (start.kept key cell found)
  fresh := by
    intro key cell found
    rcases rest.fresh key cell found with old | empty
    · exact start.fresh key cell old
    · have lost : ∀ other, second.find? other ≠ some cell := by
        intro other otherFound
        have live := proper.filled other cell otherFound
        rw [empty] at live
        cases live
      exact .inr ((start.others cell lost).symm.trans empty)
  others := by
    intro cell lost
    have lostBefore : ∀ key, second.find? key ≠ some cell :=
      fun key found => lost key (rest.kept key cell found)
    exact (rest.others cell lost).trans (start.others cell lostBefore)

/-! ## Moving between layouts -/

/-- The cells in use. -/
def used (layout : Layout κ α) : Set Nat := {cell | (layout.get? cell).isSome = true}

open Classical in
/-- The cell that a cell becomes in another layout: the one under the same key, if there is a
key, and else the cell with the same number. -/
noncomputable def moved (left right : Layout κ α) (cell : Nat) : Nat :=
  if found : ∃ key, left.find? key = some cell then (right.find? found.choose).getD cell
  else cell

theorem moved_of_find? (proper : left.Proper) {key : κ} {cell target : Nat}
    (found : left.find? key = some cell) (there : right.find? key = some target) :
    left.moved right cell = target := by
  have some : ∃ key, left.find? key = some cell := ⟨key, found⟩
  have same : some.choose = key := proper.distinct _ _ cell some.choose_spec found
  unfold moved
  rw [dif_pos some, same, there]
  rfl

theorem moved_of_lost {cell : Nat} (lost : ∀ key, left.find? key ≠ some cell) :
    left.moved right cell = cell :=
  dif_neg fun ⟨key, found⟩ => lost key found

section Common

variable (fromLeft : Develops base left) (fromRight : Develops base right)

include fromLeft fromRight

/-- A cell that no key of one layout leads to has been there from the start, and no key of the
other layout leads to it. -/
theorem lost_of_lost {cell : Nat} (live : (left.get? cell).isSome = true)
    (lost : ∀ key, left.find? key ≠ some cell) : ∀ key, right.find? key ≠ some cell := by
  intro key found
  rcases fromRight.fresh key cell found with old | empty
  · exact lost key (fromLeft.kept key cell old)
  · rw [fromLeft.others cell lost, empty] at live
    cases live

/-- A cell that was in use from the start stays. -/
theorem moved_of_used (leftProper : left.Proper) {cell : Nat} (old : cell ∈ base.used) :
    left.moved right cell = cell := by
  by_cases found : ∃ key, left.find? key = some cell
  · obtain ⟨key, found⟩ := found
    rcases fromLeft.fresh key cell found with known | empty
    · exact moved_of_find? leftProper found (fromRight.kept key cell known)
    · have live : (base.get? cell).isSome = true := old
      rw [empty] at live
      cases live
  · exact moved_of_lost (not_exists.mp found)

variable (sameKeys : ∀ key, (left.find? key).isSome = (right.find? key).isSome)
  (leftProper : left.Proper) (rightProper : right.Proper)

include sameKeys leftProper

/-- A cell either goes to the cell under the same key, or stays and is left alone. -/
theorem moved_cases {cell : Nat} (live : (left.get? cell).isSome = true) :
    (∃ key, left.find? key = some cell ∧ right.find? key = some (left.moved right cell)) ∨
      ((∀ key, right.find? key ≠ some cell) ∧ left.moved right cell = cell ∧
        right.get? cell = left.get? cell) := by
  by_cases found : ∃ key, left.find? key = some cell
  · obtain ⟨key, found⟩ := found
    have present := sameKeys key
    rw [found] at present
    obtain ⟨target, there⟩ := Option.isSome_iff_exists.mp present.symm
    rw [moved_of_find? leftProper found there]
    exact .inl ⟨key, found, there⟩
  · have lost : ∀ key, left.find? key ≠ some cell := not_exists.mp found
    have lostThere := lost_of_lost fromLeft fromRight live lost
    refine .inr ⟨lostThere, moved_of_lost lost, ?_⟩
    rw [fromLeft.others cell lost, fromRight.others cell lostThere]

include rightProper

theorem mapsTo_moved : Set.MapsTo (left.moved right) left.used right.used := by
  intro cell live
  rcases moved_cases fromLeft fromRight sameKeys leftProper live with
    ⟨key, -, there⟩ | ⟨-, stays, same⟩
  · exact rightProper.filled key _ there
  · rw [stays]
    exact (congrArg Option.isSome same).trans live

theorem leftInvOn_moved : Set.LeftInvOn (right.moved left) (left.moved right) left.used := by
  intro cell live
  rcases moved_cases fromLeft fromRight sameKeys leftProper live with
    ⟨key, found, there⟩ | ⟨lost, stays, -⟩
  · exact moved_of_find? rightProper there found
  · rw [stays]
    exact moved_of_lost lost

/-- Between two layouts that have come out of the same one and know the same keys, moving is
one to one. -/
theorem bijOn_moved : Set.BijOn (left.moved right) left.used right.used := by
  have sameKeysBack : ∀ key, (right.find? key).isSome = (left.find? key).isSome :=
    fun key => (sameKeys key).symm
  have inverse : Set.InvOn (right.moved left) (left.moved right) left.used right.used :=
    ⟨leftInvOn_moved fromLeft fromRight sameKeys leftProper rightProper,
      leftInvOn_moved fromRight fromLeft sameKeysBack rightProper leftProper⟩
  exact inverse.bijOn (mapsTo_moved fromLeft fromRight sameKeys leftProper rightProper)
    (mapsTo_moved fromRight fromLeft sameKeysBack rightProper leftProper)

end Common

end Layout

namespace Store

variable {store : Store}

/-! ## The layouts of a store -/

/-- The cell of the relationship that merging on a key would find. -/
def edgeCell? (store : Store) (key : EdgeKey) : Option Nat :=
  store.index[key.start.names]?.bind fun source =>
    store.index[key.finish.names]?.bind fun target =>
      store.findEdge? source target key.relation.name OrderedMap.empty

def nodeLayout (store : Store) : Layout NodeKey StoredNode :=
  ⟨fun key => store.index[key.names]?, store.node?⟩

def edgeLayout (store : Store) : Layout EdgeKey StoredEdge :=
  ⟨store.edgeCell?, store.edges.get?⟩

theorem edgeCell?_of_indexed {key : EdgeKey} {source target : Nat}
    (start : store.index[key.start.names]? = some source)
    (finish : store.index[key.finish.names]? = some target) :
    store.edgeCell? key = store.findEdge? source target key.relation.name OrderedMap.empty := by
  unfold edgeCell?
  rw [start, finish]
  rfl

theorem Sound.of_edgeCell? (sound : Sound store) {key : EdgeKey} {cell : Nat}
    (found : store.edgeCell? key = some cell) :
    ∃ edge, store.edges.get? cell = some edge ∧
      store.index[key.start.names]? = some edge.source ∧
      store.index[key.finish.names]? = some edge.target ∧ edge.type = key.relation.name := by
  obtain ⟨source, start, rest⟩ := Option.bind_eq_some_iff.mp found
  obtain ⟨target, finish, joined⟩ := Option.bind_eq_some_iff.mp rest
  obtain ⟨edge, live, rfl, rfl, type⟩ := sound.of_findEdge? joined
  exact ⟨edge, live, start, finish, type⟩

theorem Sound.proper_nodeLayout (sound : Sound store) : store.nodeLayout.Proper where
  filled := by
    intro key cell found
    obtain ⟨node, live, -⟩ := sound.indexed key.names cell found
    exact Option.isSome_of_eq_some live
  distinct := fun _ _ _ found otherFound => sound.nodeKey_unique found otherFound

theorem Sound.proper_edgeLayout (sound : Sound store) : store.edgeLayout.Proper where
  filled := by
    intro key cell found
    obtain ⟨edge, live, -⟩ := sound.of_edgeCell? found
    exact Option.isSome_of_eq_some live
  distinct := by
    intro key other cell found otherFound
    obtain ⟨edge, live, start, finish, type⟩ := sound.of_edgeCell? found
    obtain ⟨otherEdge, otherLive, otherStart, otherFinish, otherType⟩ :=
      sound.of_edgeCell? otherFound
    rw [live] at otherLive
    cases otherLive
    apply EdgeKey.eq_of_parts
    · exact sound.nodeKey_unique start otherStart
    · exact sound.nodeKey_unique finish otherFinish
    · exact type.symm.trans otherType

/-- The second store has come out of the first. -/
structure Develops (before after : Store) : Prop where
  nodes : before.nodeLayout.Develops after.nodeLayout
  edges : before.edgeLayout.Develops after.edgeLayout

theorem Develops.refl (store : Store) : Develops store store :=
  ⟨.refl _, .refl _⟩

theorem Develops.trans {first second third : Store} (start : Develops first second)
    (rest : Develops second third) (sound : Sound second) : Develops first third where
  nodes := start.nodes.trans rest.nodes sound.proper_nodeLayout
  edges := start.edges.trans rest.edges sound.proper_edgeLayout

/-! ## What the keys show -/

/-- The graph that is found under the keys. -/
def picture (store : Store) : Picture where
  mentions key := (store.nodeLayout.find? key).isSome = true
  described key :=
    match (store.nodeLayout.find? key).bind store.nodeLayout.get? with
    | some node => node.properties
    | none => Properties.named key.name
  joins key := (store.edgeLayout.find? key).isSome = true
  annotated key :=
    match (store.edgeLayout.find? key).bind store.edgeLayout.get? with
    | some edge => edge.properties
    | none => OrderedMap.empty

theorem described_picture {key : NodeKey} {cell : Nat} {node : StoredNode}
    (found : store.index[key.names]? = some cell) (live : store.node? cell = some node) :
    store.picture.described key = node.properties := by
  unfold picture nodeLayout
  dsimp only
  rw [found, Option.bind_some, live]

theorem described_picture_of_none {key : NodeKey}
    (missing : store.index[key.names]? = none) :
    store.picture.described key = Properties.named key.name := by
  unfold picture nodeLayout
  dsimp only
  rw [missing, Option.bind_none]

theorem annotated_picture {key : EdgeKey} {cell : Nat} {edge : StoredEdge}
    (found : store.edgeCell? key = some cell) (live : store.edges.get? cell = some edge) :
    store.picture.annotated key = edge.properties := by
  unfold picture edgeLayout
  dsimp only
  rw [found, Option.bind_some, live]

theorem annotated_picture_of_none {key : EdgeKey} (missing : store.edgeCell? key = none) :
    store.picture.annotated key = OrderedMap.empty := by
  unfold picture edgeLayout
  dsimp only
  rw [missing, Option.bind_none]

variable {other : Store}

theorem described_congr {key : NodeKey}
    (index : other.index[key.names]? = store.index[key.names]?)
    (nodes : ∀ cell, store.index[key.names]? = some cell → other.node? cell = store.node? cell) :
    other.picture.described key = store.picture.described key := by
  unfold picture nodeLayout
  dsimp only
  rw [index]
  cases found : store.index[key.names]? with
  | none => rfl
  | some cell => rw [Option.bind_some, Option.bind_some, nodes cell found]

theorem annotated_congr {key : EdgeKey} (cell? : other.edgeCell? key = store.edgeCell? key)
    (edges : ∀ cell, store.edgeCell? key = some cell →
      other.edges.get? cell = store.edges.get? cell) :
    other.picture.annotated key = store.picture.annotated key := by
  unfold picture edgeLayout
  dsimp only
  rw [cell?]
  cases found : store.edgeCell? key with
  | none => rfl
  | some cell => rw [Option.bind_some, Option.bind_some, edges cell found]

theorem joins_congr (edges : other.edgeLayout = store.edgeLayout) :
    other.picture.joins = store.picture.joins ∧
      other.picture.annotated = store.picture.annotated := by
  unfold picture
  rw [edges]
  exact ⟨rfl, rfl⟩

theorem mentions_congr (nodes : other.nodeLayout = store.nodeLayout) :
    other.picture.mentions = store.picture.mentions ∧
      other.picture.described = store.picture.described := by
  unfold picture
  rw [nodes]
  exact ⟨rfl, rfl⟩

end Store

end CodeGraph
