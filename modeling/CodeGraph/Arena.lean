/-!
# Arenas

An arena keeps values in numbered cells.  A value stays in its cell until it is
erased; a new value goes into the cell that was emptied last, or into a new cell if
no cell is empty.
-/

namespace CodeGraph

/-- Numbered cells, with the empty ones in the order in which they are filled again. -/
structure Arena (α : Type) where
  cells : Array (Option α)
  vacant : List Nat
  mem_vacant : ∀ index, index ∈ vacant ↔ cells[index]? = some none
  nodup_vacant : vacant.Nodup

namespace Arena

variable {α : Type}

/-- The arena without cells. -/
def empty : Arena α := ⟨#[], [], by simp, List.nodup_nil⟩

instance : Inhabited (Arena α) := ⟨empty⟩

def get? (arena : Arena α) (index : Nat) : Option α := arena.cells[index]?.join

def next (arena : Arena α) : Nat := arena.vacant.headD arena.cells.size

def insert (arena : Arena α) (value : α) : Arena α :=
  match same : arena.vacant with
  | [] =>
      { cells := arena.cells.push (some value)
        vacant := []
        mem_vacant := by
          intro index
          have outside := arena.mem_vacant index
          simp only [same, List.not_mem_nil, false_iff] at outside
          simp only [List.not_mem_nil, false_iff, Array.getElem?_push]
          split <;> simp_all
        nodup_vacant := List.nodup_nil }
  | index :: rest =>
      { cells := arena.cells.setIfInBounds index (some value)
        vacant := rest
        mem_vacant := by
          intro other
          have distinct := List.nodup_cons.1 (same ▸ arena.nodup_vacant)
          have mem := arena.mem_vacant other
          rw [same, List.mem_cons] at mem
          rw [Array.getElem?_setIfInBounds]
          by_cases here : index = other
          · subst here
            simp [distinct.1]
          · simp [here, Ne.symm here, ← mem]
        nodup_vacant := (List.nodup_cons.1 (same ▸ arena.nodup_vacant)).2 }

theorem mem_vacant_of_isSome {arena : Arena α} {index : Nat}
    (live : (arena.get? index).isSome) (other : Nat) :
    other ∈ index :: arena.vacant ↔
      (arena.cells.setIfInBounds index none)[other]? = some none := by
  have inside : index < arena.cells.size := by
    refine Nat.lt_of_not_le fun outside => ?_
    simp [get?, Array.getElem?_eq_none outside] at live
  rw [List.mem_cons, arena.mem_vacant other, Array.getElem?_setIfInBounds]
  by_cases same : index = other
  · subst same
    simp [inside]
  · simp [same, Ne.symm same]

theorem nodup_vacant_of_isSome {arena : Arena α} {index : Nat}
    (live : (arena.get? index).isSome) : (index :: arena.vacant).Nodup := by
  refine List.nodup_cons.2 ⟨fun member => ?_, arena.nodup_vacant⟩
  simp only [get?, (arena.mem_vacant index).1 member] at live
  simp at live

def erase (arena : Arena α) (index : Nat) : Arena α :=
  if live : (arena.get? index).isSome then
    { cells := arena.cells.setIfInBounds index none
      vacant := index :: arena.vacant
      mem_vacant := mem_vacant_of_isSome live
      nodup_vacant := nodup_vacant_of_isSome live }
  else arena

/-- Changes the value in a cell, if there is one. -/
def modify (arena : Arena α) (index : Nat) (change : α → α) : Arena α :=
  { cells := arena.cells.modify index (Option.map change)
    vacant := arena.vacant
    mem_vacant := by
      intro other
      simp only [Array.getElem?_modify, arena.mem_vacant other]
      split
      · cases arena.cells[other]? <;> simp
      · rfl
    nodup_vacant := arena.nodup_vacant }

def isLive (arena : Arena α) (index : Nat) : Bool := (arena.get? index).isSome

/-- The numbers of the cells with a value, in order. -/
def indices (arena : Arena α) : List Nat :=
  (List.range arena.cells.size).filter arena.isLive

/-- The values, in the order of the cells. -/
def toList (arena : Arena α) : List α := arena.cells.toList.filterMap id

def size (arena : Arena α) : Nat := arena.toList.length

end Arena

end CodeGraph
