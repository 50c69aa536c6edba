/-!
# Maps in order of insertion

A map from names to values that keeps its entries in the order in which their keys
first came.  Inserting under a key that is there overwrites the value in place, and
erasing keeps the order of what stays.  No key stands twice.
-/

namespace CodeGraph

variable {β : Type}

namespace Entries

/-- Overwrites the value under the key, or puts a new entry last. -/
def insert (key : String) (value : β) : List (String × β) → List (String × β)
  | [] => [(key, value)]
  | entry :: rest =>
      if entry.1 = key then (key, value) :: rest
      else entry :: insert key value rest

def find? (key : String) : List (String × β) → Option β
  | [] => none
  | entry :: rest => if entry.1 = key then some entry.2 else find? key rest

/-- The entries without the one under the key. -/
def erase (key : String) (entries : List (String × β)) : List (String × β) :=
  entries.filter (·.1 ≠ key)

def keys (entries : List (String × β)) : List String := entries.map (·.1)

theorem mem_keys_insert {key other : String} {value : β}
    {entries : List (String × β)} :
    other ∈ keys (insert key value entries) ↔
      other = key ∨ other ∈ keys entries := by
  induction entries with
  | nil => simp [insert, keys]
  | cons entry rest induction =>
      by_cases same : entry.1 = key
      · simp [insert, keys, same]
      · simp only [insert, same, if_false]
        simp only [keys, List.map_cons, List.mem_cons] at induction ⊢
        rw [induction]
        grind

theorem nodup_insert {key : String} {value : β} {entries : List (String × β)}
    (distinct : (keys entries).Nodup) :
    (keys (insert key value entries)).Nodup := by
  induction entries with
  | nil => simp [insert, keys]
  | cons entry rest induction =>
      simp only [keys, List.map_cons, List.nodup_cons] at distinct
      by_cases same : entry.1 = key
      · simp only [insert, same, if_true, keys, List.map_cons, List.nodup_cons]
        exact same ▸ distinct
      · simp only [insert, same, if_false, keys, List.map_cons, List.nodup_cons]
        refine ⟨fun member => ?_, induction distinct.2⟩
        rcases mem_keys_insert.1 member with equal | before
        · exact same equal
        · exact distinct.1 before

theorem nodup_erase {key : String} {entries : List (String × β)}
    (distinct : (keys entries).Nodup) : (keys (erase key entries)).Nodup :=
  (List.filter_sublist.map _).nodup distinct

end Entries

structure OrderedMap (β : Type) where
  entries : List (String × β)
  nodup_keys : (Entries.keys entries).Nodup
deriving DecidableEq

namespace OrderedMap

instance [Repr β] : Repr (OrderedMap β) := ⟨fun map n => reprPrec map.entries n⟩

/-- The map without entries. -/
def empty : OrderedMap β := ⟨[], List.nodup_nil⟩

instance : Inhabited (OrderedMap β) := ⟨empty⟩

def find? (map : OrderedMap β) (key : String) : Option β :=
  Entries.find? key map.entries

/-- Overwrites the value under a key in place, or puts a new entry last. -/
def insert (map : OrderedMap β) (key : String) (value : β) : OrderedMap β :=
  ⟨Entries.insert key value map.entries, Entries.nodup_insert map.nodup_keys⟩

/-- The map without the entry under a key. -/
def erase (map : OrderedMap β) (key : String) : OrderedMap β :=
  ⟨Entries.erase key map.entries, Entries.nodup_erase map.nodup_keys⟩

def ofList (entries : List (String × β)) : OrderedMap β :=
  entries.foldl (fun map entry => map.insert entry.1 entry.2) empty

def keys (map : OrderedMap β) : List String := Entries.keys map.entries

end OrderedMap

end CodeGraph
