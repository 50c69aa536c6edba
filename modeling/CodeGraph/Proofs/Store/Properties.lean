import CodeGraph.Proofs.OrderedMap
import CodeGraph.Store

/-!
# Setting properties

Setting the properties of a map overwrites what is there under the keys of the map and
leaves everything else alone.  When all of it is there already, nothing changes.
-/

namespace CodeGraph

/-- The property value of an attribute. -/
def Scalar.toProperty : Scalar → PropertyValue
  | bool value => .bool value
  | int value => .int value
  | text value => .text value

/-- The attributes of a fact as properties, in the order in which they are set. -/
def OrderedMap.toProperties (attributes : Attributes) : Properties :=
  OrderedMap.ofList
    ((Json.sortByKey attributes.entries).map fun entry => (entry.1, entry.2.toProperty))

namespace Properties

/-- The properties of a node of which only the name is known. -/
def named (name : String) : Properties := OrderedMap.ofList [(keyProperty, .text name)]

/-- The properties of a node with a name and attributes. -/
def ofNode (name : String) (attributes : Attributes) : Properties :=
  OrderedMap.ofList ((keyProperty, .text name) :: attributes.toProperties.entries)

theorem find?_set (properties : Properties) (entry : String × PropertyValue) (key : String) :
    (set properties entry).find? key =
      if entry.1 = key then if entry.2 = .null then none else some entry.2
      else properties.find? key := by
  obtain ⟨changed, value⟩ := entry
  cases value with
  | null => simp [set, OrderedMap.find?_erase]
  | _ => simp [set, OrderedMap.find?_insert]

theorem find?_overlay (properties changes : Properties) (key : String) :
    (overlay properties changes).find? key =
      match changes.find? key with
      | none => properties.find? key
      | some value => if value = .null then none else some value := by
  obtain ⟨entries, distinct⟩ := changes
  simp only [overlay, OrderedMap.find?]
  induction entries generalizing properties with
  | nil => rfl
  | cons entry entries induction =>
      simp only [Entries.keys, List.map_cons, List.nodup_cons] at distinct
      have later := induction (set properties entry) distinct.2
      rw [List.foldl_cons, later, Entries.find?]
      by_cases same : entry.1 = key
      · have absent : Entries.find? key entries = none := by
          rw [Entries.find?_eq_none_iff, ← same]
          exact distinct.1
        have here := find?_set properties entry key
        rw [if_pos same] at here ⊢
        rw [absent]
        exact here
      · have here := find?_set properties entry key
        rw [if_neg same] at here ⊢
        cases Entries.find? key entries with
        | none => exact here
        | some value => rfl

/-- Setting what is there already changes nothing. -/
theorem overlay_eq_self {properties changes : Properties}
    (present : ∀ entry ∈ changes.entries, entry.2 ≠ .null ∧
      properties.find? entry.1 = some entry.2) :
    overlay properties changes = properties := by
  obtain ⟨entries, distinct⟩ := changes
  simp only [overlay] at present ⊢
  induction entries with
  | nil => rfl
  | cons entry entries induction =>
      obtain ⟨notNull, found⟩ := present entry List.mem_cons_self
      have first : set properties entry = properties := by
        obtain ⟨key, value⟩ := entry
        cases value with
        | null => exact absurd rfl notNull
        | _ => exact OrderedMap.insert_of_find? found
      rw [List.foldl_cons, first]
      exact induction (List.nodup_cons.mp distinct).2
        fun other member => present other (List.mem_cons_of_mem entry member)

end Properties

/-! ## The attributes of a fact -/

theorem Scalar.toProperty_ne_null (value : Scalar) : value.toProperty ≠ .null := by
  cases value <;> simp [Scalar.toProperty]

namespace OrderedMap

theorem entries_toProperties (attributes : Attributes) :
    attributes.toProperties.entries =
      (Json.sortByKey attributes.entries).map fun entry => (entry.1, entry.2.toProperty) := by
  apply entries_ofList
  have sameKeys : Entries.keys ((Json.sortByKey attributes.entries).map fun entry =>
      (entry.1, entry.2.toProperty)) = Entries.keys (Json.sortByKey attributes.entries) := by
    simp [Entries.keys, Function.comp_def]
  rw [sameKeys]
  exact ((List.mergeSort_perm _ _).map _).nodup_iff.mpr attributes.nodup_keys

theorem toProperties_empty : OrderedMap.toProperties OrderedMap.empty = OrderedMap.empty := by
  apply OrderedMap.ext
  rw [entries_toProperties]
  simp [Json.sortByKey, OrderedMap.empty]

theorem ne_null_of_mem_toProperties {attributes : Attributes}
    {entry : String × PropertyValue} (member : entry ∈ attributes.toProperties.entries) :
    entry.2 ≠ .null := by
  rw [entries_toProperties] at member
  obtain ⟨source, -, rfl⟩ := List.mem_map.mp member
  exact source.2.toProperty_ne_null

theorem find?_toProperties_of_not_mem {attributes : Attributes} {key : String}
    (absent : key ∉ attributes.keys) : attributes.toProperties.find? key = none := by
  unfold find?
  rw [Entries.find?_eq_none_iff, entries_toProperties]
  intro member
  apply absent
  simp only [Entries.keys, List.map_map, List.mem_map] at member
  obtain ⟨entry, sorted, rfl⟩ := member
  exact List.mem_map_of_mem ((List.mergeSort_perm _ _).mem_iff.mp sorted)

end OrderedMap

namespace Properties

/-- Once the attributes of a fact have been set, each is there. -/
theorem find?_overlay_toProperties {properties : Properties} {attributes : Attributes}
    {entry : String × PropertyValue} (member : entry ∈ attributes.toProperties.entries) :
    (overlay properties attributes.toProperties).find? entry.1 = some entry.2 := by
  have found : attributes.toProperties.find? entry.1 = some entry.2 :=
    OrderedMap.find?_of_mem member
  rw [find?_overlay, found]
  exact if_neg (OrderedMap.ne_null_of_mem_toProperties member)

/-- Attributes other than the key leave the key alone. -/
theorem find?_keyProperty_overlay (properties : Properties) {attributes : Attributes}
    (plain : keyProperty ∉ attributes.keys) :
    (overlay properties attributes.toProperties).find? keyProperty =
      properties.find? keyProperty := by
  rw [find?_overlay, OrderedMap.find?_toProperties_of_not_mem plain]

theorem overlay_toProperties (written : List (String × PropertyValue))
    (attributes : Attributes) :
    overlay (OrderedMap.ofList written) attributes.toProperties =
      OrderedMap.ofList (written ++ attributes.toProperties.entries) := by
  have inserted : ∀ (entries : List (String × PropertyValue)) (properties : Properties),
      (∀ entry ∈ entries, entry.2 ≠ .null) →
      entries.foldl set properties =
        entries.foldl (fun map entry => map.insert entry.1 entry.2) properties := by
    intro entries
    induction entries with
    | nil =>
        intro properties _
        rfl
    | cons entry entries induction =>
        intro properties notNull
        have first : set properties entry = properties.insert entry.1 entry.2 := by
          obtain ⟨key, value⟩ := entry
          cases value with
          | null => exact absurd rfl (notNull _ List.mem_cons_self)
          | _ => rfl
        rw [List.foldl_cons, List.foldl_cons, first]
        exact induction _ fun other member => notNull other (List.mem_cons_of_mem entry member)
  unfold overlay OrderedMap.ofList
  rw [List.foldl_append]
  exact inserted _ _ fun entry member => OrderedMap.ne_null_of_mem_toProperties member

theorem ofNode_empty (name : String) : ofNode name OrderedMap.empty = named name := by
  unfold ofNode
  rw [OrderedMap.toProperties_empty]
  rfl

theorem overlay_named (name : String) (attributes : Attributes) :
    overlay (named name) attributes.toProperties = ofNode name attributes :=
  overlay_toProperties [(keyProperty, .text name)] attributes

theorem overlay_empty (attributes : Attributes) :
    overlay OrderedMap.empty attributes.toProperties = attributes.toProperties := by
  apply OrderedMap.ext
  have listed := overlay_toProperties [] attributes
  rw [List.nil_append] at listed
  exact (congrArg OrderedMap.entries listed).trans
    (OrderedMap.entries_ofList attributes.toProperties.nodup_keys)

end Properties

end CodeGraph
