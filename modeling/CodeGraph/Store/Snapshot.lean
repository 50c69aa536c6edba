import CodeGraph.Store.Dump

/-!
# Snapshots

A snapshot is a dump as bytes: numbers with the lowest byte first, sequences after
their length in eight bytes, values after a tag in four bytes.  What follows a
complete snapshot does not count.
-/

namespace CodeGraph.Snapshot

/-! ## Writing -/

/-- A number in the given count of bytes, the lowest first. -/
def encodeNat : Nat → Nat → List UInt8
  | 0, _ => []
  | width + 1, value => UInt8.ofNat value :: encodeNat width (value / 256)

def encodeLength (length : Nat) : List UInt8 := encodeNat 8 length

/-- A text: its length in bytes, and its bytes. -/
def encodeText (text : String) : List UInt8 :=
  encodeLength text.utf8ByteSize ++ text.toUTF8.toList

def encodeTag (tag : Nat) : List UInt8 := encodeNat 4 tag

mutual

def encodeValue : PropertyValue → List UInt8
  | .null => encodeTag 0
  | .bool value => encodeTag 1 ++ [if value then 1 else 0]
  | .int value => encodeTag 2 ++ encodeNat 8 value.toUInt64.toNat
  | .float value => encodeTag 3 ++ encodeNat 8 value.bits.toNat
  | .text value => encodeTag 4 ++ encodeText value
  | .list items => encodeTag 5 ++ encodeLength items.length ++ encodeValues items

/-- Property values one after another. -/
def encodeValues : List PropertyValue → List UInt8
  | [] => []
  | item :: items => encodeValue item ++ encodeValues items

end

/-- A sequence: its length, and its items. -/
def encodeList {α : Type} (encode : α → List UInt8) (items : List α) : List UInt8 :=
  encodeLength items.length ++ items.flatMap encode

def encodeProperties (properties : Properties) : List UInt8 :=
  encodeList (fun entry => encodeText entry.1 ++ encodeValue entry.2) properties.entries

def encodeNode (node : StoredNode) : List UInt8 :=
  encodeText node.label ++ encodeProperties node.properties

def encodeEdge (edge : DumpedEdge) : List UInt8 :=
  encodeNat 4 edge.source ++ encodeNat 4 edge.target ++ encodeText edge.type ++
    encodeProperties edge.properties

def encode (dump : Dump) : List UInt8 :=
  encodeList encodeNode dump.nodes ++ encodeList encodeEdge dump.edges

/-! ## Reading -/

abbrev Decoder (α : Type) := StateT (List UInt8) Option α

def byte : Decoder UInt8
  | [] => none
  | first :: rest => some (first, rest)

def decodeNat : Nat → Decoder Nat
  | 0 => pure 0
  | width + 1 => do
      let low ← byte
      let high ← decodeNat width
      return low.toNat + 256 * high

def take (count : Nat) : Decoder (List UInt8) := fun bytes =>
  let taken := bytes.take count
  if taken.length = count then some (taken, bytes.drop count) else none

def decodeText : Decoder String := do
  let length ← decodeNat 8
  let bytes ← take length
  match String.fromUTF8? ⟨bytes.toArray⟩ with
  | some text => return text
  | none => failure

def decodeItems {α : Type} (item : Decoder α) : Nat → Decoder (List α)
  | 0 => pure []
  | count + 1 => do
      let first ← item
      let rest ← decodeItems item count
      return first :: rest

def decodeList {α : Type} (item : Decoder α) : Decoder (List α) := do
  let length ← decodeNat 8
  decodeItems item length

/-- Reads a property value with at most `depth` levels of lists. -/
def decodeValue : Nat → Decoder PropertyValue
  | 0 => failure
  | depth + 1 => do
      match ← decodeNat 4 with
      | 0 => return .null
      | 1 =>
          match ← byte with
          | 0 => return .bool false
          | 1 => return .bool true
          | _ => failure
      | 2 => return .int (UInt64.ofNat (← decodeNat 8)).toInt64
      | 3 => return .float ⟨UInt64.ofNat (← decodeNat 8)⟩
      | 4 => return .text (← decodeText)
      | 5 => return .list (← decodeList (decodeValue depth))
      | _ => failure

/-- Reads properties; the last of equal keys counts. -/
def decodeProperties : Decoder Properties := do
  let depth := (← get).length
  let entries ← decodeList do
    let key ← decodeText
    let value ← decodeValue depth
    return (key, value)
  return OrderedMap.ofList entries

def decodeNode : Decoder StoredNode := do
  let label ← decodeText
  let properties ← decodeProperties
  return ⟨label, properties⟩

def decodeEdge : Decoder DumpedEdge := do
  let source ← decodeNat 4
  let target ← decodeNat 4
  let type ← decodeText
  let properties ← decodeProperties
  return ⟨source, target, type, properties⟩

def decode : Decoder Dump := do
  let nodes ← decodeList decodeNode
  let edges ← decodeList decodeEdge
  return ⟨nodes, edges⟩

def load (path : String) (bytes : List UInt8) : Except Failure Store :=
  match decode bytes with
  | none => .error .snapshot
  | some (dump, _) =>
      match Store.ofDump? dump with
      | none => .error (.config (.corruptSnapshot path))
      | some store => .ok store

def save (store : Store) : List UInt8 := encode store.dump

end CodeGraph.Snapshot
