import CodeGraph.Arena
import Mathlib.Data.List.Basic

/-!
# What arenas hold

Every operation on an arena is described by what it does to the value in each cell.
The next cell is never in use, so that inserting overwrites nothing.
-/

namespace CodeGraph.Arena

variable {α : Type}

@[ext] theorem ext {left right : Arena α} (cells : left.cells = right.cells)
    (vacant : left.vacant = right.vacant) : left = right := by
  cases left
  cases right
  cases cells
  cases vacant
  rfl

@[simp] theorem get?_empty (index : Nat) : (empty : Arena α).get? index = none := by
  simp [empty, get?]

theorem lt_size_of_get? {arena : Arena α} {index : Nat} {value : α}
    (found : arena.get? index = some value) : index < arena.cells.size := by
  apply Nat.lt_of_not_le
  intro outside
  simp [get?, Array.getElem?_eq_none outside] at found

@[simp] theorem get?_next (arena : Arena α) : arena.get? arena.next = none := by
  cases same : arena.vacant with
  | nil => simp [next, same, get?]
  | cons index rest =>
      have hole : arena.cells[index]? = some none :=
        (arena.mem_vacant index).mp (by simp [same])
      simp [next, same, get?, hole]

theorem get?_insert (arena : Arena α) (value : α) (index : Nat) :
    (arena.insert value).get? index =
      if index = arena.next then some value else arena.get? index := by
  unfold insert
  split
  next same =>
    by_cases last : index = arena.cells.size
    · simp [get?, next, same, last]
    · simp [get?, next, same, last, Array.getElem?_push]
  next first rest same =>
    have hole : arena.cells[first]? = some none :=
      (arena.mem_vacant first).mp (by simp [same])
    obtain ⟨inside, -⟩ := Array.getElem?_eq_some_iff.mp hole
    by_cases filled : index = first
    · subst index
      simp [get?, next, same, inside]
    · simp [get?, next, same, filled, Ne.symm filled]

@[simp] theorem get?_insert_next (arena : Arena α) (value : α) :
    (arena.insert value).get? arena.next = some value := by
  simp [get?_insert]

/-- A value stays in its cell when another one comes. -/
theorem get?_insert_of_get? {arena : Arena α} {index : Nat} {old : α} (value : α)
    (found : arena.get? index = some old) :
    (arena.insert value).get? index = some old := by
  have different : index ≠ arena.next := by
    intro same
    simp [same] at found
  simp [get?_insert, different, found]

theorem get?_erase (arena : Arena α) (erased index : Nat) :
    (arena.erase erased).get? index =
      if index = erased then none else arena.get? index := by
  unfold erase
  split
  next live =>
    by_cases same : index = erased
    · subst index
      simp only [get?, Array.getElem?_setIfInBounds, if_true]
      split <;> simp
    · simp [get?, same, Ne.symm same]
  next vacant =>
    by_cases same : index = erased
    · subst index
      simpa using vacant
    · simp [same]

theorem get?_modify (arena : Arena α) (changed index : Nat) (change : α → α) :
    (arena.modify changed change).get? index =
      if index = changed then (arena.get? index).map change else arena.get? index := by
  by_cases same : index = changed
  · subst index
    cases found : arena.cells[changed]? with
    | none => simp [get?, modify, Array.getElem?_modify, found]
    | some cell => simp [get?, modify, Array.getElem?_modify, found]
  · simp [get?, modify, Array.getElem?_modify, same, Ne.symm same]

/-- Putting back what is in the cell changes nothing. -/
theorem modify_eq_self {arena : Arena α} {index : Nat} {change : α → α}
    (fixed : ∀ value, arena.get? index = some value → change value = value) :
    arena.modify index change = arena := by
  apply Arena.ext
  · apply Array.ext_getElem?
    intro other
    by_cases same : index = other
    · subst other
      cases found : arena.cells[index]? with
      | none => simp [modify, Array.getElem?_modify, found]
      | some cell =>
          cases cell with
          | none => simp [modify, Array.getElem?_modify, found]
          | some value =>
              have equal : change value = value := fixed value (by simp [get?, found])
              simp [modify, Array.getElem?_modify, found, equal]
    · simp [modify, Array.getElem?_modify, same]
  · rfl

theorem mem_indices {arena : Arena α} {index : Nat} :
    index ∈ arena.indices ↔ (arena.get? index).isSome = true := by
  simp only [indices, List.mem_filter, List.mem_range, isLive, and_iff_right_iff_imp]
  intro live
  obtain ⟨value, found⟩ := Option.isSome_iff_exists.mp live
  exact lt_size_of_get? found

private theorem filterMap_id_eq_range (cells : List (Option α)) :
    cells.filterMap id =
      (List.range cells.length).filterMap fun index => cells[index]?.join := by
  induction cells with
  | nil => rfl
  | cons cell cells induction =>
      rw [List.length_cons, List.range_succ_eq_map, List.filterMap_cons,
        List.filterMap_cons, List.filterMap_map, induction]
      cases cell <;> rfl

/-- The values stand in the order of the cells that are in use. -/
theorem toList_eq_filterMap_indices (arena : Arena α) :
    arena.toList = arena.indices.filterMap arena.get? := by
  have cells : arena.toList =
      (List.range arena.cells.size).filterMap arena.get? := by
    have listed := filterMap_id_eq_range arena.cells.toList
    simp only [Array.length_toList, Array.getElem?_toList] at listed
    exact listed
  rw [cells, indices, List.filterMap_filter]
  congr 1
  funext index
  cases found : arena.get? index <;> simp [isLive, found]

theorem length_indices (arena : Arena α) : arena.indices.length = arena.toList.length := by
  rw [toList_eq_filterMap_indices, List.length_filterMap_eq_countP]
  symm
  rw [List.countP_eq_length]
  intro index member
  exact mem_indices.mp member

theorem map_get?_indices (arena : Arena α) :
    arena.indices.map arena.get? = arena.toList.map some := by
  rw [toList_eq_filterMap_indices, List.map_filterMap_some_eq_filter_map_isSome]
  symm
  rw [List.filter_eq_self]
  intro value member
  obtain ⟨index, live, rfl⟩ := List.mem_map.mp member
  exact mem_indices.mp live

/-- A value stands where its cell stands among the cells that are in use. -/
theorem getElem?_toList_idxOf {arena : Arena α} {index : Nat} {value : α}
    (found : arena.get? index = some value) :
    arena.toList[arena.indices.idxOf index]? = some value := by
  have member : index ∈ arena.indices := mem_indices.mpr (by simp [found])
  have listed := congrArg (fun values => values[arena.indices.idxOf index]?)
    (map_get?_indices arena)
  rw [List.getElem?_map, List.getElem?_map, List.getElem?_idxOf member, Option.map_some,
    found] at listed
  obtain ⟨other, stands, same⟩ := Option.map_eq_some_iff.mp listed.symm
  rw [stands, same]

private theorem map_idxOf_find? (cells : List Nat) (test : Nat → Bool) :
    (cells.find? test).map cells.idxOf = cells.findIdx? test := by
  induction cells with
  | nil => rfl
  | cons cell cells induction =>
      rw [List.find?_cons, List.findIdx?_cons]
      cases passes : test cell with
      | true => simp
      | false =>
          simp only [Bool.false_eq_true, if_false]
          rw [← induction, Option.map_map]
          refine Option.map_congr ?_
          intro found member
          have different : cell ≠ found := by
            rintro rfl
            rw [List.find?_some member] at passes
            cases passes
          exact List.idxOf_cons_ne _ different

/-- The first cell whose value passes a test is where the first such value stands. -/
theorem map_idxOf_find?_indices (arena : Arena α) (test : α → Bool) :
    (arena.indices.find? fun index => (arena.get? index).any test).map arena.indices.idxOf =
      arena.toList.findIdx? test := by
  rw [map_idxOf_find?]
  calc arena.indices.findIdx? (fun index => (arena.get? index).any test)
      = (arena.indices.map arena.get?).findIdx? (·.any test) := by
        rw [List.findIdx?_map]
        rfl
    _ = (arena.toList.map some).findIdx? (·.any test) := by rw [map_get?_indices]
    _ = arena.toList.findIdx? test := by
        rw [List.findIdx?_map]
        rfl

theorem mem_toList {arena : Arena α} {value : α} :
    value ∈ arena.toList ↔ ∃ index, arena.get? index = some value := by
  rw [toList_eq_filterMap_indices, List.mem_filterMap]
  constructor
  · rintro ⟨index, -, found⟩
    exact ⟨index, found⟩
  · rintro ⟨index, found⟩
    exact ⟨index, mem_indices.mpr (by simp [found]), found⟩

/-! ## Arenas without empty cells -/

theorem indices_of_vacant_eq_nil {arena : Arena α} (full : arena.vacant = []) :
    arena.indices = List.range arena.cells.size := by
  rw [indices, List.filter_eq_self]
  intro index member
  have inside := List.mem_range.mp member
  have filled : arena.cells[index]? ≠ some none := by
    rw [Ne, ← arena.mem_vacant index, full]
    exact List.not_mem_nil
  rw [isLive, get?]
  rw [Array.getElem?_eq_getElem inside] at filled ⊢
  cases held : arena.cells[index] with
  | none => exact absurd (congrArg some held) filled
  | some value => rfl

theorem length_toList_of_vacant_eq_nil {arena : Arena α} (full : arena.vacant = []) :
    arena.toList.length = arena.cells.size := by
  rw [← length_indices, indices_of_vacant_eq_nil full, List.length_range]

/-- Without an empty cell, a new value comes last. -/
theorem insert_of_vacant_eq_nil {arena : Arena α} (full : arena.vacant = []) (value : α) :
    (arena.insert value).vacant = [] ∧
      (arena.insert value).cells = arena.cells.push (some value) := by
  unfold insert
  split
  · exact ⟨rfl, rfl⟩
  next other =>
    rw [full] at other
    cases other

theorem toList_insert_of_vacant_eq_nil {arena : Arena α} (full : arena.vacant = [])
    (value : α) : (arena.insert value).toList = arena.toList ++ [value] := by
  rw [toList, (insert_of_vacant_eq_nil full value).2]
  simp [toList]

end CodeGraph.Arena
