import CodeGraph.Proofs.OrderedMap
import CodeGraph.Store.Snapshot
import Mathlib.Algebra.Order.Ring.Nat

/-!
# Reading snapshots back

Each decoder reads back what its encoder has written, whatever bytes follow.  Lengths take
eight bytes and positions four, so that this holds of everything that has a snapshot of
fewer than 2 ^ 64 bytes and no position beyond 2 ^ 32.
-/

namespace CodeGraph.Snapshot

variable {α β : Type}

/-- Whatever follows the bytes, the decoder reads the value from them and leaves the rest. -/
def Reads (decoder : Decoder α) (bytes : List UInt8) (value : α) : Prop :=
  ∀ rest, decoder (bytes ++ rest) = some (value, rest)

namespace Reads

theorem pure (value : α) : Reads (pure value) [] value := fun _ => rfl

theorem bind {first : Decoder α} {next : α → Decoder β} {bytes more : List UInt8} {value : α}
    {result : β} (reads : Reads first bytes value) (later : Reads (next value) more result) :
    Reads (first >>= next) (bytes ++ more) result := by
  intro rest
  have read : (first >>= next) (bytes ++ (more ++ rest)) = next value (more ++ rest) := by
    change (first (bytes ++ (more ++ rest))).bind (fun read => next read.1 read.2) = _
    rw [reads (more ++ rest)]
    rfl
  rw [List.append_assoc, read, later rest]

/-- The last step may read nothing more. -/
theorem map {first : Decoder α} {bytes : List UInt8} {value : α} (reads : Reads first bytes value)
    {next : α → Decoder β} {result : β} (same : next value = Pure.pure result) :
    Reads (first >>= next) bytes result := by
  have last : Reads (next value) [] result := same ▸ .pure result
  simpa using reads.bind last

theorem convert {decoder : Decoder α} {bytes : List UInt8} {value : α}
    (reads : Reads decoder bytes value) (convert : α → β) :
    Reads (convert <$> decoder) bytes (convert value) := by
  rw [map_eq_pure_bind]
  exact reads.map rfl

end Reads

/-! ## Numbers -/

@[simp] theorem length_encodeNat (width value : Nat) : (encodeNat width value).length = width := by
  induction width generalizing value with
  | zero => rfl
  | succ width induction => rw [encodeNat, List.length_cons, induction]

theorem reads_byte (first : UInt8) : Reads byte [first] first := fun _ => rfl

theorem reads_nat {width value : Nat} (small : value < 256 ^ width) :
    Reads (decodeNat width) (encodeNat width value) value := by
  induction width generalizing value with
  | zero =>
      rw [Nat.pow_zero, Nat.lt_one_iff] at small
      subst value
      exact .pure 0
  | succ width induction =>
      have high : value / 256 < 256 ^ width := by
        rw [Nat.div_lt_iff_lt_mul (by decide), ← Nat.pow_succ]
        exact small
      have sum : (UInt8.ofNat value).toNat + 256 * (value / 256) = value := by
        simp only [UInt8.toNat_ofNat']
        omega
      rw [encodeNat, decodeNat, ← List.singleton_append]
      refine (reads_byte _).bind ((induction high).map ?_)
      rw [sum]

theorem reads_length {length : Nat} (small : length < 2 ^ 64) :
    Reads (decodeNat 8) (encodeLength length) length :=
  reads_nat small

theorem reads_tag {tag : Nat} (small : tag < 2 ^ 32) : Reads (decodeNat 4) (encodeTag tag) tag :=
  reads_nat small

/-! ## Texts -/

private theorem toList_loop (bytes : ByteArray) (index : Nat) (read : List UInt8) :
    ByteArray.toList.loop bytes index read = read.reverse ++ bytes.data.toList.drop index := by
  fun_induction ByteArray.toList.loop bytes index read with
  | case1 index read inside induction =>
      have shorter : index < bytes.data.toList.length := inside
      have here : bytes.get! index = bytes.data.toList[index] :=
        getElem!_pos bytes.data index inside
      rw [induction, List.drop_eq_getElem_cons shorter, here, List.reverse_cons,
        List.append_assoc, List.singleton_append]
  | case2 index read outside =>
      have short : bytes.data.toList.length ≤ index := Nat.le_of_not_lt outside
      rw [List.drop_eq_nil_of_le short, List.append_nil]

theorem toList_toUTF8 (text : String) : text.toUTF8.toList = text.toByteArray.data.toList :=
  toList_loop text.toByteArray 0 []

theorem reads_take (bytes : List UInt8) : Reads (take bytes.length) bytes bytes := by
  intro rest
  simp [take]

theorem length_encodeText (text : String) :
    (encodeText text).length = 8 + text.utf8ByteSize := by
  rw [encodeText, List.length_append, encodeLength, length_encodeNat, toList_toUTF8]
  rfl

theorem reads_text {text : String} (small : text.utf8ByteSize < 2 ^ 64) :
    Reads decodeText (encodeText text) text := by
  have bytes : Reads (take text.utf8ByteSize) text.toUTF8.toList text.toUTF8.toList := by
    have length : text.toUTF8.toList.length = text.utf8ByteSize := by
      rw [toList_toUTF8]
      rfl
    exact length ▸ reads_take _
  have valid : String.fromUTF8? ⟨text.toUTF8.toList.toArray⟩ = some text := by
    rw [toList_toUTF8, Array.toArray_toList]
    exact dif_pos text.isValidUTF8
  refine (reads_length small).bind (bytes.map ?_)
  rw [valid]

/-! ## Sequences -/

theorem reads_items {item : Decoder α} {encode : α → List UInt8} {items : List α}
    (reads : ∀ value ∈ items, Reads item (encode value) value) :
    Reads (decodeItems item items.length) (items.flatMap encode) items := by
  induction items with
  | nil => exact .pure []
  | cons first rest induction =>
      obtain ⟨here, later⟩ := List.forall_mem_cons.mp reads
      exact here.bind ((induction later).map rfl)

theorem reads_list {item : Decoder α} {encode : α → List UInt8} {items : List α}
    (small : items.length < 2 ^ 64) (reads : ∀ value ∈ items, Reads item (encode value) value) :
    Reads (decodeList item) (encodeList encode items) items :=
  (reads_length small).bind (reads_items reads)

theorem length_le_flatMap {encode : α → List UInt8} {items : List α} {value : α}
    (member : value ∈ items) : (encode value).length ≤ (items.flatMap encode).length := by
  rw [List.flatMap_def]
  exact (List.sublist_flatten_of_mem (List.mem_map_of_mem member)).length_le

theorem count_le_flatMap {encode : α → List UInt8} (items : List α)
    (some : ∀ value, 1 ≤ (encode value).length) :
    items.length ≤ (items.flatMap encode).length := by
  induction items with
  | nil => exact Nat.le_refl 0
  | cons first rest induction =>
      have head := some first
      rw [List.flatMap_cons, List.length_append, List.length_cons]
      omega

/-! ## Values -/

theorem encodeValues_eq_flatMap (items : List PropertyValue) :
    encodeValues items = items.flatMap encodeValue := by
  induction items with
  | nil => rfl
  | cons item items induction => rw [encodeValues, induction, List.flatMap_cons]

theorem four_le_length_encodeValue (value : PropertyValue) : 4 ≤ (encodeValue value).length := by
  cases value <;> simp [encodeValue, encodeTag]

private theorem length_encodeValue_list (items : List PropertyValue) :
    (encodeValue (.list items)).length = 12 + (encodeValues items).length := by
  simp only [encodeValue, encodeTag, encodeLength, List.length_append, length_encodeNat]

private theorem count_le_encodeValues (items : List PropertyValue) :
    items.length ≤ (encodeValues items).length := by
  rw [encodeValues_eq_flatMap]
  refine count_le_flatMap items fun value => ?_
  have four := four_le_length_encodeValue value
  omega

mutual

/-- As many levels of lists are enough as the value takes bytes. -/
theorem reads_value : ∀ (value : PropertyValue) (depth : Nat),
    (encodeValue value).length ≤ depth → (encodeValue value).length < 2 ^ 64 →
    Reads (decodeValue depth) (encodeValue value) value
  | value, 0, deep, _ => by
      have four := four_le_length_encodeValue value
      omega
  | .null, depth + 1, _, _ => (reads_tag (by decide)).map rfl
  | .bool value, depth + 1, _, _ => by
      refine (reads_tag (by decide : 1 < 2 ^ 32)).bind ((reads_byte _).map ?_)
      cases value <;> rfl
  | .int value, depth + 1, _, _ => by
      have fits := value.toUInt64.toNat_lt
      refine (reads_tag (by decide : 2 < 2 ^ 32)).bind ((reads_nat fits).map ?_)
      simp
  | .float value, depth + 1, _, _ => by
      have fits := value.bits.toNat_lt
      refine (reads_tag (by decide : 3 < 2 ^ 32)).bind ((reads_nat fits).map ?_)
      simp
  | .text value, depth + 1, _, small => by
      rw [encodeValue, List.length_append, length_encodeText] at small
      have fits : value.utf8ByteSize < 2 ^ 64 := by omega
      exact (reads_tag (by decide : 4 < 2 ^ 32)).bind ((reads_text fits).map rfl)
  | .list items, depth + 1, deep, small => by
      rw [length_encodeValue_list] at deep small
      have count := count_le_encodeValues items
      have fits : items.length < 2 ^ 64 := by omega
      have reads := reads_values items depth (by omega) (by omega)
      rw [encodeValue, List.append_assoc]
      exact (reads_tag (by decide : 5 < 2 ^ 32)).bind (((reads_length fits).bind reads).map rfl)

theorem reads_values : ∀ (items : List PropertyValue) (depth : Nat),
    (encodeValues items).length ≤ depth → (encodeValues items).length < 2 ^ 64 →
    Reads (decodeItems (decodeValue depth) items.length) (encodeValues items) items
  | [], _, _, _ => .pure []
  | item :: items, depth, deep, small => by
      rw [encodeValues, List.length_append] at deep small
      have first := reads_value item depth (by omega) (by omega)
      have rest := reads_values items depth (by omega) (by omega)
      exact first.bind (rest.map rfl)

end

/-! ## Properties, nodes and relationships -/

theorem length_encodeList (encode : α → List UInt8) (items : List α) :
    (encodeList encode items).length = 8 + (items.flatMap encode).length := by
  simp [encodeList, encodeLength]

/-- A property under its key. -/
def encodeEntry (entry : String × PropertyValue) : List UInt8 :=
  encodeText entry.1 ++ encodeValue entry.2

def decodeEntry (depth : Nat) : Decoder (String × PropertyValue) := do
  let key ← decodeText
  let value ← decodeValue depth
  return (key, value)

def encodeEntries (entries : List (String × PropertyValue)) : List UInt8 :=
  encodeList encodeEntry entries

/-- As many levels of lists are read as there are bytes. -/
def decodeEntries : Decoder (List (String × PropertyValue)) := do
  let depth := (← get).length
  decodeList (decodeEntry depth)

private theorem decodeEntries_eq (bytes : List UInt8) :
    decodeEntries bytes = decodeList (decodeEntry bytes.length) bytes := rfl

theorem length_encodeEntry (entry : String × PropertyValue) :
    (encodeEntry entry).length = 8 + entry.1.utf8ByteSize + (encodeValue entry.2).length := by
  rw [encodeEntry, List.length_append, length_encodeText]

theorem reads_entry {entry : String × PropertyValue} {depth : Nat}
    (deep : (encodeEntry entry).length ≤ depth) (small : (encodeEntry entry).length < 2 ^ 64) :
    Reads (decodeEntry depth) (encodeEntry entry) entry := by
  rw [length_encodeEntry] at deep small
  have fits : entry.1.utf8ByteSize < 2 ^ 64 := by omega
  have value := reads_value entry.2 depth (by omega) (by omega)
  exact (reads_text fits).bind (value.map rfl)

theorem reads_entries {entries : List (String × PropertyValue)}
    (small : (encodeEntries entries).length < 2 ^ 64) :
    Reads decodeEntries (encodeEntries entries) entries := by
  have length := length_encodeList encodeEntry entries
  have count := count_le_flatMap entries fun entry =>
    (by rw [length_encodeEntry]; omega : 1 ≤ (encodeEntry entry).length)
  rw [encodeEntries] at small ⊢
  intro rest
  rw [decodeEntries_eq]
  refine reads_list (by omega) (fun entry member => ?_) rest
  have part : (encodeEntry entry).length ≤ (entries.flatMap encodeEntry).length :=
    length_le_flatMap member
  refine reads_entry ?_ (by omega)
  rw [List.length_append]
  omega

/-! ## Snapshots as they are written -/

/-- A node of a snapshot.  Several of its entries may have one key. -/
structure WrittenNode where
  label : String
  entries : List (String × PropertyValue)

/-- A relationship of a snapshot, between the nodes at two positions. -/
structure WrittenEdge where
  source : Nat
  target : Nat
  type : String
  entries : List (String × PropertyValue)

/-- What a snapshot says, entry by entry. -/
structure Written where
  nodes : List WrittenNode
  edges : List WrittenEdge

def encodeWrittenNode (node : WrittenNode) : List UInt8 :=
  encodeText node.label ++ encodeEntries node.entries

def encodeWrittenEdge (edge : WrittenEdge) : List UInt8 :=
  encodeNat 4 edge.source ++ encodeNat 4 edge.target ++ encodeText edge.type ++
    encodeEntries edge.entries

def encodeWritten (written : Written) : List UInt8 :=
  encodeList encodeWrittenNode written.nodes ++ encodeList encodeWrittenEdge written.edges

def decodeWrittenNode : Decoder WrittenNode := do
  let label ← decodeText
  let entries ← decodeEntries
  return ⟨label, entries⟩

def decodeWrittenEdge : Decoder WrittenEdge := do
  let source ← decodeNat 4
  let target ← decodeNat 4
  let type ← decodeText
  let entries ← decodeEntries
  return ⟨source, target, type, entries⟩

def decodeWritten : Decoder Written := do
  let nodes ← decodeList decodeWrittenNode
  let edges ← decodeList decodeWrittenEdge
  return ⟨nodes, edges⟩

theorem length_encodeWrittenNode (node : WrittenNode) :
    (encodeWrittenNode node).length =
      8 + node.label.utf8ByteSize + (encodeEntries node.entries).length := by
  rw [encodeWrittenNode, List.length_append, length_encodeText]

theorem length_encodeWrittenEdge (edge : WrittenEdge) :
    (encodeWrittenEdge edge).length =
      16 + edge.type.utf8ByteSize + (encodeEntries edge.entries).length := by
  simp only [encodeWrittenEdge, List.length_append, length_encodeText, length_encodeNat]
  omega

theorem reads_writtenNode {node : WrittenNode} (small : (encodeWrittenNode node).length < 2 ^ 64) :
    Reads decodeWrittenNode (encodeWrittenNode node) node := by
  rw [length_encodeWrittenNode] at small
  have fits : node.label.utf8ByteSize < 2 ^ 64 := by omega
  have entries : Reads decodeEntries (encodeEntries node.entries) node.entries :=
    reads_entries (by omega)
  exact (reads_text fits).bind (entries.map rfl)

theorem reads_writtenEdge {edge : WrittenEdge} (source : edge.source < 2 ^ 32)
    (target : edge.target < 2 ^ 32) (small : (encodeWrittenEdge edge).length < 2 ^ 64) :
    Reads decodeWrittenEdge (encodeWrittenEdge edge) edge := by
  rw [length_encodeWrittenEdge] at small
  have fits : edge.type.utf8ByteSize < 2 ^ 64 := by omega
  have entries : Reads decodeEntries (encodeEntries edge.entries) edge.entries :=
    reads_entries (by omega)
  rw [encodeWrittenEdge, List.append_assoc, List.append_assoc]
  exact (reads_nat source).bind
    ((reads_nat target).bind ((reads_text fits).bind (entries.map rfl)))

theorem reads_written {written : Written} (small : (encodeWritten written).length < 2 ^ 64)
    (positions : ∀ edge ∈ written.edges, edge.source < 2 ^ 32 ∧ edge.target < 2 ^ 32) :
    Reads decodeWritten (encodeWritten written) written := by
  rw [encodeWritten, List.length_append, length_encodeList, length_encodeList] at small
  have nodeCount := count_le_flatMap written.nodes fun node =>
    (by rw [length_encodeWrittenNode]; omega : 1 ≤ (encodeWrittenNode node).length)
  have edgeCount := count_le_flatMap written.edges fun edge =>
    (by rw [length_encodeWrittenEdge]; omega : 1 ≤ (encodeWrittenEdge edge).length)
  have nodes : Reads (decodeList decodeWrittenNode) (encodeList encodeWrittenNode written.nodes)
      written.nodes := by
    refine reads_list (by omega) fun node member => reads_writtenNode ?_
    have part : (encodeWrittenNode node).length ≤ (written.nodes.flatMap encodeWrittenNode).length :=
      length_le_flatMap member
    omega
  have edges : Reads (decodeList decodeWrittenEdge) (encodeList encodeWrittenEdge written.edges)
      written.edges := by
    refine reads_list (by omega) fun edge member => ?_
    have part : (encodeWrittenEdge edge).length ≤ (written.edges.flatMap encodeWrittenEdge).length :=
      length_le_flatMap member
    exact reads_writtenEdge (positions edge member).1 (positions edge member).2 (by omega)
  exact nodes.bind (edges.map rfl)

/-! ## Dumps -/

namespace Written

/-- The nodes and relationships, of which each has the last entry of each key. -/
def dump (written : Written) : Dump :=
  { nodes := written.nodes.map fun node => ⟨node.label, OrderedMap.ofList node.entries⟩
    edges := written.edges.map fun edge =>
      ⟨edge.source, edge.target, edge.type, OrderedMap.ofList edge.entries⟩ }

def ofDump (dump : Dump) : Written :=
  { nodes := dump.nodes.map fun node => ⟨node.label, node.properties.entries⟩
    edges := dump.edges.map fun edge =>
      ⟨edge.source, edge.target, edge.type, edge.properties.entries⟩ }

theorem dump_ofDump (dump : Dump) : (ofDump dump).dump = dump := by
  have restored : ∀ properties : Properties, OrderedMap.ofList properties.entries = properties :=
    fun properties => OrderedMap.ext (OrderedMap.entries_ofList properties.nodup_keys)
  simp [Written.dump, ofDump, Function.comp_def, restored]

end Written

theorem encode_eq (dump : Dump) : encode dump = encodeWritten (.ofDump dump) := by
  simp only [encode, encodeWritten, encodeList, Written.ofDump, List.length_map, List.flatMap_map]
  rfl

theorem decodeList_map {item : Decoder α} (convert : α → β) :
    decodeList (convert <$> item) = List.map convert <$> decodeList item := by
  have items : ∀ count, decodeItems (convert <$> item) count =
      List.map convert <$> decodeItems item count := by
    intro count
    induction count with
    | zero => simp [decodeItems]
    | succ count induction => simp [decodeItems, induction]
  simp only [decodeList, items, map_bind]

theorem decode_eq : decode = Written.dump <$> decodeWritten := by
  have properties : decodeProperties = OrderedMap.ofList <$> decodeEntries := by
    simp only [decodeProperties, decodeEntries, map_bind, bind_pure_comp]
    rfl
  have node : decodeNode =
      (fun node => ⟨node.label, OrderedMap.ofList node.entries⟩) <$> decodeWrittenNode := by
    simp [decodeNode, decodeWrittenNode, properties]
  have edge : decodeEdge =
      (fun edge => ⟨edge.source, edge.target, edge.type, OrderedMap.ofList edge.entries⟩) <$>
        decodeWrittenEdge := by
    simp [decodeEdge, decodeWrittenEdge, properties]
  simp only [decode, decodeWritten, node, edge, decodeList_map]
  simp [Written.dump]

theorem reads_dump {dump : Dump} (small : (encode dump).length < 2 ^ 64)
    (positions : ∀ edge ∈ dump.edges, edge.source < 2 ^ 32 ∧ edge.target < 2 ^ 32) :
    Reads decode (encode dump) dump := by
  rw [encode_eq] at small ⊢
  have writtenPositions : ∀ edge ∈ (Written.ofDump dump).edges,
      edge.source < 2 ^ 32 ∧ edge.target < 2 ^ 32 := by
    intro edge member
    obtain ⟨dumped, isDumped, same⟩ := List.mem_map.mp member
    subst same
    exact positions dumped isDumped
  have reads := (reads_written small writtenPositions).convert Written.dump
  rw [Written.dump_ofDump] at reads
  rw [decode_eq]
  exact reads

end CodeGraph.Snapshot
