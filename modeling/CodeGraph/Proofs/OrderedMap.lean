import CodeGraph.OrderedMap

/-!
# Looking up in ordered maps

An ordered map is determined by its entries, and what it answers is determined by
what was inserted and erased last under the key asked for.
-/

namespace CodeGraph

variable {β : Type}

namespace Entries

theorem find?_insert (key other : String) (value : β) (entries : List (String × β)) :
    find? other (insert key value entries) =
      if key = other then some value else find? other entries := by
  induction entries with
  | nil => simp [insert, find?]
  | cons entry rest induction =>
      by_cases same : entry.1 = key
      · subst key
        by_cases asked : entry.1 = other
        · simp [insert, find?, asked]
        · simp [insert, find?, asked]
      · by_cases asked : key = other
        · subst other
          simp [insert, find?, same, induction]
        · simp [insert, find?, same, induction, asked]

theorem find?_erase (key other : String) (entries : List (String × β)) :
    find? other (erase key entries) =
      if key = other then none else find? other entries := by
  induction entries with
  | nil => simp [erase, find?]
  | cons entry rest induction =>
      simp only [erase] at induction ⊢
      by_cases same : entry.1 = key
      · by_cases asked : key = other
        · simpa [same, asked] using induction
        · simpa [same, asked, find?] using induction
      · have kept : (entry :: rest).filter (·.1 ≠ key) =
            entry :: rest.filter (·.1 ≠ key) := by simp [same]
        rw [kept]
        simp only [find?, induction]
        by_cases asked : key = other
        · simp [asked, asked ▸ same]
        · simp [asked]

theorem find?_eq_none_iff {key : String} {entries : List (String × β)} :
    find? key entries = none ↔ key ∉ keys entries := by
  induction entries with
  | nil => simp [find?, keys]
  | cons entry rest induction =>
      by_cases same : entry.1 = key
      · simp [find?, keys, same]
      · have different : key ≠ entry.1 := Ne.symm same
        simpa [find?, keys, same, different] using induction

theorem find?_of_mem {key : String} {value : β} {entries : List (String × β)}
    (distinct : (keys entries).Nodup) (member : (key, value) ∈ entries) :
    find? key entries = some value := by
  induction entries with
  | nil => simp at member
  | cons entry rest induction =>
      simp only [keys, List.map_cons, List.nodup_cons] at distinct
      rcases List.mem_cons.mp member with first | later
      · subst entry
        simp [find?]
      · have different : entry.1 ≠ key := by
          intro same
          exact distinct.1 (same ▸ List.mem_map_of_mem (f := (·.1)) later)
        simpa [find?, different] using induction distinct.2 later

theorem mem_of_find? {key : String} {value : β} {entries : List (String × β)}
    (found : find? key entries = some value) : (key, value) ∈ entries := by
  induction entries with
  | nil => cases found
  | cons entry rest induction =>
      rw [find?] at found
      split at found
      next same =>
        cases found
        exact same ▸ List.mem_cons_self
      next => exact List.mem_cons_of_mem entry (induction found)

theorem find?_append (key : String) (first second : List (String × β)) :
    find? key (first ++ second) = (find? key first).or (find? key second) := by
  induction first with
  | nil => rfl
  | cons entry rest induction =>
      by_cases same : entry.1 = key
      · simp [find?, same]
      · simpa [find?, same] using induction

theorem find?_reverse_append (key : String) (first second : List (String × β)) :
    find? key (first ++ second).reverse =
      (find? key second.reverse).or (find? key first.reverse) := by
  rw [List.reverse_append, find?_append]

theorem find?_filter (key : String) (entries : List (String × β)) :
    find? key (entries.filter (·.1 = key)) = find? key entries := by
  induction entries with
  | nil => rfl
  | cons entry rest induction =>
      by_cases same : entry.1 = key
      · simp [find?, same]
      · simpa [find?, same] using induction

/-- If all entries under a key have one value, it is found. -/
theorem find?_of_unique {key : String} {value : β} {entries : List (String × β)}
    (member : (key, value) ∈ entries)
    (unique : ∀ entry ∈ entries, entry.1 = key → entry.2 = value) :
    find? key entries = some value := by
  cases found : find? key entries with
  | none => exact absurd (List.mem_map_of_mem member) (find?_eq_none_iff.mp found)
  | some other => exact congrArg some (unique _ (mem_of_find? found) rfl)

/-- Inserting what is there already changes nothing. -/
theorem insert_of_find? {key : String} {value : β} {entries : List (String × β)}
    (found : find? key entries = some value) : insert key value entries = entries := by
  induction entries with
  | nil => simp [find?] at found
  | cons entry rest induction =>
      by_cases same : entry.1 = key
      · simp only [find?, same, if_true, Option.some.injEq] at found
        subst key value
        simp [insert]
      · simp only [find?, same, if_false] at found
        simp [insert, same, induction found]

/-- A key that is not there yet comes last. -/
theorem insert_of_not_mem {key : String} {value : β} {entries : List (String × β)}
    (absent : key ∉ keys entries) : insert key value entries = entries ++ [(key, value)] := by
  induction entries with
  | nil => rfl
  | cons entry rest induction =>
      simp only [keys, List.map_cons, List.mem_cons, not_or] at absent
      simp [insert, Ne.symm absent.1, induction absent.2]

end Entries

namespace OrderedMap

@[ext] theorem ext {left right : OrderedMap β} (same : left.entries = right.entries) :
    left = right := by
  cases left
  cases right
  cases same
  rfl

@[simp] theorem find?_empty (key : String) : (empty : OrderedMap β).find? key = none := rfl

theorem find?_insert (map : OrderedMap β) (key other : String) (value : β) :
    (map.insert key value).find? other =
      if key = other then some value else map.find? other :=
  Entries.find?_insert key other value map.entries

theorem find?_erase (map : OrderedMap β) (key other : String) :
    (map.erase key).find? other = if key = other then none else map.find? other :=
  Entries.find?_erase key other map.entries

@[simp] theorem find?_insert_self (map : OrderedMap β) (key : String) (value : β) :
    (map.insert key value).find? key = some value := by
  simp [find?_insert]

theorem find?_of_mem {map : OrderedMap β} {key : String} {value : β}
    (member : (key, value) ∈ map.entries) : map.find? key = some value :=
  Entries.find?_of_mem map.nodup_keys member

theorem mem_of_find? {map : OrderedMap β} {key : String} {value : β}
    (found : map.find? key = some value) : (key, value) ∈ map.entries :=
  Entries.mem_of_find? found

theorem insert_of_find? {map : OrderedMap β} {key : String} {value : β}
    (found : map.find? key = some value) : map.insert key value = map :=
  OrderedMap.ext (Entries.insert_of_find? found)

/-- Of several entries under one key the last is found. -/
theorem find?_foldl_insert (entries : List (String × β)) (map : OrderedMap β) (key : String) :
    (entries.foldl (fun map entry => map.insert entry.1 entry.2) map).find? key =
      (Entries.find? key entries.reverse).or (map.find? key) := by
  induction entries generalizing map with
  | nil => rfl
  | cons entry rest induction =>
      rw [List.foldl_cons, induction, find?_insert, List.reverse_cons, Entries.find?_append,
        Option.or_assoc]
      by_cases same : entry.1 = key
      · simp [Entries.find?, same]
      · simp [Entries.find?, same]

theorem find?_ofList (entries : List (String × β)) (key : String) :
    (ofList entries).find? key = Entries.find? key entries.reverse :=
  (find?_foldl_insert entries empty key).trans (Option.or_none ..)

/-- Entries under distinct keys stay as they are and where they are. -/
theorem entries_ofList {entries : List (String × β)} (distinct : (Entries.keys entries).Nodup) :
    (ofList entries).entries = entries := by
  have appended : ∀ (rest : List (String × β)) (map : OrderedMap β),
      (Entries.keys (map.entries ++ rest)).Nodup →
      (rest.foldl (fun map entry => map.insert entry.1 entry.2) map).entries =
        map.entries ++ rest := by
    intro rest
    induction rest with
    | nil => simp
    | cons entry rest induction =>
        intro map unique
        have absent : entry.1 ∉ Entries.keys map.entries := by
          intro member
          simp only [Entries.keys, List.map_append, List.map_cons] at unique member
          exact (List.nodup_append.mp unique).2.2 _ member _ List.mem_cons_self rfl
        have last : (map.insert entry.1 entry.2).entries = map.entries ++ [entry] :=
          Entries.insert_of_not_mem absent
        have step := induction (map.insert entry.1 entry.2)
        rw [last, List.append_assoc] at step
        exact step unique
  exact appended entries empty distinct

end OrderedMap

end CodeGraph
