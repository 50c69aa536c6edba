import CodeGraph.Proofs.Store.Restored

/-!
# Snapshots are read exactly

What a decoder reads is spelled in one way only: the bytes are those that its encoder writes.
So a snapshot that is cut short is never read as another one, and a store that is loaded from
any bytes is saved as the bytes that were read, unless these repeat a key.
-/

namespace CodeGraph.Snapshot

variable {α β : Type}

/-- Whatever the decoder reads, the bytes that it takes are those of the value. -/
def Spells (decoder : Decoder α) (encode : α → List UInt8) : Prop :=
  ∀ ⦃bytes value rest⦄, decoder bytes = some (value, rest) → bytes = encode value ++ rest

theorem exists_of_bind_eq_some {first : Decoder α} {next : α → Decoder β}
    {bytes rest : List UInt8} {result : β}
    (read : (first >>= next) bytes = some (result, rest)) :
    ∃ value middle, first bytes = some (value, middle) ∧
      next value middle = some (result, rest) := by
  obtain ⟨⟨value, middle⟩, here, later⟩ := Option.bind_eq_some_iff.mp read
  exact ⟨value, middle, here, later⟩

/-! ## Numbers -/

theorem of_byte {bytes rest : List UInt8} {first : UInt8}
    (read : byte bytes = some (first, rest)) : bytes = first :: rest := by
  cases bytes with
  | nil => cases read
  | cons other bytes =>
      cases read
      rfl

theorem of_decodeNat {width value : Nat} {bytes rest : List UInt8}
    (read : decodeNat width bytes = some (value, rest)) :
    value < 256 ^ width ∧ bytes = encodeNat width value ++ rest := by
  induction width generalizing bytes value with
  | zero =>
      cases read
      exact ⟨Nat.one_pos, rfl⟩
  | succ width induction =>
      obtain ⟨low, middle, lowRead, later⟩ := exists_of_bind_eq_some read
      obtain ⟨high, last, highRead, same⟩ := exists_of_bind_eq_some later
      cases same
      obtain ⟨small, spelled⟩ := induction highRead
      have lowSmall := low.toNat_lt
      have quotient : (low.toNat + 256 * high) / 256 = high := by omega
      have remainder : UInt8.ofNat (low.toNat + 256 * high) = low := by
        apply UInt8.toNat_inj.mp
        rw [UInt8.toNat_ofNat']
        omega
      refine ⟨by rw [Nat.pow_succ]; omega, ?_⟩
      rw [of_byte lowRead, spelled, encodeNat, quotient, remainder]
      rfl

theorem spells_nat (width : Nat) : Spells (decodeNat width) (encodeNat width) :=
  fun _ _ _ read => (of_decodeNat read).2

/-! ## Texts -/

theorem of_take {count : Nat} {bytes taken rest : List UInt8}
    (read : take count bytes = some (taken, rest)) :
    taken.length = count ∧ bytes = taken ++ rest := by
  unfold take at read
  dsimp only at read
  split at read
  next enough =>
    cases read
    exact ⟨enough, (List.take_append_drop count bytes).symm⟩
  next => cases read

theorem of_fromUTF8? {bytes : List UInt8} {text : String}
    (valid : String.fromUTF8? ⟨bytes.toArray⟩ = some text) : text.toUTF8.toList = bytes := by
  unfold String.fromUTF8? at valid
  split at valid
  next => cases valid; exact toList_toUTF8 _
  next => cases valid

theorem spells_text : Spells decodeText encodeText := by
  intro bytes text rest read
  obtain ⟨length, middle, lengthRead, read⟩ := exists_of_bind_eq_some read
  obtain ⟨taken, last, takenRead, read⟩ := exists_of_bind_eq_some read
  obtain ⟨count, spelled⟩ := of_take takenRead
  cases valid : String.fromUTF8? ⟨taken.toArray⟩ with
  | none =>
      rw [valid] at read
      cases read
  | some other =>
      rw [valid] at read
      cases read
      have content := of_fromUTF8? valid
      have size : text.utf8ByteSize = length := by
        rw [← count, ← content, toList_toUTF8]
        rfl
      rw [encodeText, size, content, spells_nat 8 lengthRead, spelled, List.append_assoc]
      rfl

/-! ## Sequences -/

theorem of_decodeItems {item : Decoder α} {encode : α → List UInt8} (spells : Spells item encode)
    {count : Nat} {items : List α} {bytes rest : List UInt8}
    (read : decodeItems item count bytes = some (items, rest)) :
    items.length = count ∧ bytes = items.flatMap encode ++ rest := by
  induction count generalizing bytes items with
  | zero =>
      cases read
      exact ⟨rfl, rfl⟩
  | succ count induction =>
      obtain ⟨first, middle, firstRead, later⟩ := exists_of_bind_eq_some read
      obtain ⟨others, last, othersRead, same⟩ := exists_of_bind_eq_some later
      cases same
      obtain ⟨length, spelled⟩ := induction othersRead
      refine ⟨congrArg (· + 1) length, ?_⟩
      rw [spells firstRead, spelled, List.flatMap_cons, List.append_assoc]

theorem spells_list {item : Decoder α} {encode : α → List UInt8} (spells : Spells item encode) :
    Spells (decodeList item) (encodeList encode) := by
  intro bytes items rest read
  obtain ⟨length, middle, lengthRead, later⟩ := exists_of_bind_eq_some read
  obtain ⟨count, spelled⟩ := of_decodeItems spells later
  rw [encodeList, count, spells_nat 8 lengthRead, spelled, List.append_assoc]
  rfl

/-! ## Values -/

theorem spells_value (depth : Nat) : Spells (decodeValue depth) encodeValue := by
  induction depth with
  | zero => exact fun _ _ _ read => nomatch read
  | succ depth induction =>
      intro bytes value rest read
      rw [decodeValue] at read
      obtain ⟨tag, middle, tagRead, read⟩ := exists_of_bind_eq_some read
      have spelled := spells_nat 4 tagRead
      split at read
      next => cases read; exact spelled
      next =>
        obtain ⟨flag, last, flagRead, read⟩ := exists_of_bind_eq_some read
        have flagSpelled := of_byte flagRead
        split at read
        · cases read
          rw [spelled, flagSpelled]
          rfl
        · cases read
          rw [spelled, flagSpelled]
          rfl
        · cases read
      next =>
        obtain ⟨word, last, wordRead, same⟩ := exists_of_bind_eq_some read
        cases same
        obtain ⟨small, wordSpelled⟩ := of_decodeNat wordRead
        have kept : (UInt64.ofNat word).toNat = word := UInt64.toNat_ofNat_of_lt small
        rw [spelled, wordSpelled, encodeValue, UInt64.toUInt64_toInt64, kept, List.append_assoc]
        rfl
      next =>
        obtain ⟨word, last, wordRead, same⟩ := exists_of_bind_eq_some read
        cases same
        obtain ⟨small, wordSpelled⟩ := of_decodeNat wordRead
        have kept : (UInt64.ofNat word).toNat = word := UInt64.toNat_ofNat_of_lt small
        rw [spelled, wordSpelled, encodeValue, kept, List.append_assoc]
        rfl
      next =>
        obtain ⟨text, last, textRead, same⟩ := exists_of_bind_eq_some read
        cases same
        rw [spelled, spells_text textRead, encodeValue, List.append_assoc]
        rfl
      next =>
        obtain ⟨items, last, itemsRead, same⟩ := exists_of_bind_eq_some read
        cases same
        rw [spelled, spells_list induction itemsRead, encodeValue, encodeValues_eq_flatMap]
        simp only [encodeList, encodeTag, List.append_assoc]
      next => cases read

/-! ## Snapshots -/

theorem spells_entry (depth : Nat) : Spells (decodeEntry depth) encodeEntry := by
  intro bytes entry rest read
  obtain ⟨key, middle, keyRead, read⟩ := exists_of_bind_eq_some read
  obtain ⟨value, last, valueRead, same⟩ := exists_of_bind_eq_some read
  cases same
  rw [spells_text keyRead, spells_value depth valueRead, encodeEntry, List.append_assoc]

theorem spells_entries : Spells decodeEntries encodeEntries := by
  intro bytes entries rest read
  obtain ⟨depth, middle, same, read⟩ := exists_of_bind_eq_some read
  cases same
  exact spells_list (spells_entry _) read

theorem spells_writtenNode : Spells decodeWrittenNode encodeWrittenNode := by
  intro bytes node rest read
  obtain ⟨label, middle, labelRead, read⟩ := exists_of_bind_eq_some read
  obtain ⟨entries, last, entriesRead, same⟩ := exists_of_bind_eq_some read
  cases same
  rw [spells_text labelRead, spells_entries entriesRead, encodeWrittenNode, List.append_assoc]

theorem spells_writtenEdge : Spells decodeWrittenEdge encodeWrittenEdge := by
  intro bytes edge rest read
  obtain ⟨source, first, sourceRead, read⟩ := exists_of_bind_eq_some read
  obtain ⟨target, second, targetRead, read⟩ := exists_of_bind_eq_some read
  obtain ⟨type, third, typeRead, read⟩ := exists_of_bind_eq_some read
  obtain ⟨entries, last, entriesRead, same⟩ := exists_of_bind_eq_some read
  cases same
  rw [spells_nat 4 sourceRead, spells_nat 4 targetRead, spells_text typeRead,
    spells_entries entriesRead]
  simp only [encodeWrittenEdge, List.append_assoc]

theorem spells_written : Spells decodeWritten encodeWritten := by
  intro bytes written rest read
  obtain ⟨nodes, middle, nodesRead, read⟩ := exists_of_bind_eq_some read
  obtain ⟨edges, last, edgesRead, same⟩ := exists_of_bind_eq_some read
  cases same
  rw [spells_list spells_writtenNode nodesRead, spells_list spells_writtenEdge edgesRead,
    encodeWritten, List.append_assoc]

theorem forall_of_decodeList {item : Decoder α} {holds : α → Prop}
    (each : ∀ bytes value rest, item bytes = some (value, rest) → holds value)
    {items : List α} {bytes rest : List UInt8}
    (read : decodeList item bytes = some (items, rest)) : ∀ value ∈ items, holds value := by
  obtain ⟨length, middle, -, later⟩ := exists_of_bind_eq_some read
  clear read
  induction length generalizing items middle with
  | zero =>
      cases later
      exact fun _ member => nomatch member
  | succ count induction =>
      obtain ⟨first, next, firstRead, later⟩ := exists_of_bind_eq_some later
      obtain ⟨others, last, othersRead, same⟩ := exists_of_bind_eq_some later
      cases same
      exact List.forall_mem_cons.mpr ⟨each _ _ _ firstRead, induction next othersRead⟩

/-- Four bytes have no number beyond 2 ^ 32. -/
theorem positions_of_decodeWritten {written : Written} {bytes rest : List UInt8}
    (read : decodeWritten bytes = some (written, rest)) :
    ∀ edge ∈ written.edges, edge.source < 2 ^ 32 ∧ edge.target < 2 ^ 32 := by
  obtain ⟨nodes, middle, -, read⟩ := exists_of_bind_eq_some read
  obtain ⟨edges, last, edgesRead, same⟩ := exists_of_bind_eq_some read
  cases same
  refine forall_of_decodeList (fun bytes edge rest read => ?_) edgesRead
  obtain ⟨source, first, sourceRead, read⟩ := exists_of_bind_eq_some read
  obtain ⟨target, second, targetRead, read⟩ := exists_of_bind_eq_some read
  obtain ⟨type, third, -, read⟩ := exists_of_bind_eq_some read
  obtain ⟨entries, last, -, same⟩ := exists_of_bind_eq_some read
  cases same
  exact ⟨(of_decodeNat sourceRead).1, (of_decodeNat targetRead).1⟩

theorem exists_written {dump : Dump} {bytes rest : List UInt8}
    (read : decode bytes = some (dump, rest)) :
    ∃ written, decodeWritten bytes = some (written, rest) ∧ written.dump = dump := by
  rw [decode_eq, map_eq_pure_bind] at read
  obtain ⟨written, middle, writtenRead, same⟩ := exists_of_bind_eq_some read
  cases same
  exact ⟨written, writtenRead, rfl⟩

/-- What is read from few enough bytes is read from its own bytes, whatever follows these. -/
theorem reads_of_decodeWritten {written : Written} {bytes rest : List UInt8}
    (read : decodeWritten bytes = some (written, rest)) (small : bytes.length < 2 ^ 64) :
    Reads decodeWritten (encodeWritten written) written := by
  refine reads_written ?_ (positions_of_decodeWritten read)
  have length := congrArg List.length (spells_written read)
  rw [List.length_append] at length
  omega

/-! ## Keys -/

/-- No properties have a key twice. -/
def Written.DistinctKeys (written : Written) : Prop :=
  (∀ node ∈ written.nodes, (Entries.keys node.entries).Nodup) ∧
    ∀ edge ∈ written.edges, (Entries.keys edge.entries).Nodup

theorem Written.ofDump_dump {written : Written} (distinct : written.DistinctKeys) :
    ofDump written.dump = written := by
  obtain ⟨nodes, edges⟩ := written
  have sameNodes : ∀ node ∈ nodes,
      (⟨node.label, (OrderedMap.ofList node.entries).entries⟩ : WrittenNode) = node := by
    intro node member
    rw [OrderedMap.entries_ofList (distinct.1 node member)]
  have sameEdges : ∀ edge ∈ edges, (⟨edge.source, edge.target, edge.type,
      (OrderedMap.ofList edge.entries).entries⟩ : WrittenEdge) = edge := by
    intro edge member
    rw [OrderedMap.entries_ofList (distinct.2 edge member)]
  simp only [Written.dump, ofDump, List.map_map, Function.comp_def]
  rw [List.map_congr_left sameNodes, List.map_congr_left sameEdges, List.map_id', List.map_id']

theorem Written.distinctKeys_ofDump (dump : Dump) : (ofDump dump).DistinctKeys := by
  constructor
  · intro node member
    obtain ⟨stored, -, same⟩ := List.mem_map.mp member
    subst same
    exact stored.properties.nodup_keys
  · intro edge member
    obtain ⟨dumped, -, same⟩ := List.mem_map.mp member
    subst same
    exact dumped.properties.nodup_keys

/-- Writing again what was read gives the bytes that were read, unless they repeat a key. -/
theorem bytes_eq_encode_dump {written : Written} {bytes rest : List UInt8}
    (read : decodeWritten bytes = some (written, rest)) (distinct : written.DistinctKeys) :
    bytes = encode written.dump ++ rest := by
  rw [encode_eq, Written.ofDump_dump distinct]
  exact spells_written read

theorem distinctKeys_of_bytes_eq {written : Written} {bytes rest : List UInt8}
    (read : decodeWritten bytes = some (written, rest)) (small : bytes.length < 2 ^ 64)
    (same : bytes = encode written.dump ++ rest) : written.DistinctKeys := by
  have spelled := spells_written read
  rw [encode_eq] at same
  have bytesSame : encodeWritten written = encodeWritten (.ofDump written.dump) :=
    List.append_cancel_right (spelled.symm.trans same)
  have positions : ∀ edge ∈ (Written.ofDump written.dump).edges,
      edge.source < 2 ^ 32 ∧ edge.target < 2 ^ 32 := by
    intro edge member
    obtain ⟨dumped, isDumped, sameEdge⟩ := List.mem_map.mp member
    obtain ⟨first, isWritten, sameDumped⟩ := List.mem_map.mp isDumped
    subst sameEdge sameDumped
    exact positions_of_decodeWritten read first isWritten
  have length := congrArg List.length same
  rw [List.length_append] at length
  have again := reads_written (by omega) positions rest
  rw [← bytesSame, ← spelled, read] at again
  have sameWritten : written = .ofDump written.dump := (Prod.mk.inj (Option.some.inj again)).1
  rw [sameWritten]
  exact Written.distinctKeys_ofDump written.dump

end CodeGraph.Snapshot

namespace CodeGraph.Store

open Snapshot

/-! ## Loading from arbitrary bytes -/

/-- A snapshot that is cut short is not read at all. -/
theorem Fits.decode_eq_none_of_cut {store : Store} (fits : Fits store) {cut lost : List UInt8}
    (shorter : lost ≠ []) (whole : Snapshot.save store = cut ++ lost) : decode cut = none := by
  cases read : decode cut with
  | none => rfl
  | some reading =>
      obtain ⟨dump, rest⟩ := reading
      obtain ⟨written, writtenRead, same⟩ := exists_written read
      have small : cut.length < 2 ^ 64 := by
        have length := congrArg List.length whole
        have bytes := fits.bytes
        rw [List.length_append] at length
        omega
      -- what was read from the cut bytes is read from all of them too, and leaves some over
      have longer := (reads_of_decodeWritten writtenRead small).convert Written.dump (rest ++ lost)
      rw [← decode_eq, ← List.append_assoc, ← spells_written writtenRead, ← whole] at longer
      have all := fits.reads []
      rw [List.append_nil, longer] at all
      cases List.append_eq_nil_iff.mp (Prod.mk.inj (Option.some.inj all)).2 with
      | intro _ nothing => exact absurd nothing shorter

theorem load_of_read? {disk : Disk} {path : String} {bytes : List UInt8}
    (file : disk.read? path = some bytes) : Store.load disk path = Snapshot.load path bytes := by
  unfold Disk.read? at file
  unfold Store.load
  split at file
  next number content found => cases file; rw [found]
  next => cases file

theorem exists_of_load {path : String} {bytes : List UInt8} {restored : Store}
    (loaded : Snapshot.load path bytes = .ok restored) :
    ∃ written rest, decodeWritten bytes = some (written, rest) ∧
      written.dump = restored.dump := by
  unfold Snapshot.load at loaded
  split at loaded
  next => cases loaded
  next dump rest read =>
    split at loaded
    next => cases loaded
    next store restores =>
      cases loaded
      obtain ⟨written, writtenRead, same⟩ := exists_written read
      obtain ⟨again, sameStore, restoredDump⟩ := exists_ofDump? (inside_of_ofDump? restores)
      cases restores.symm.trans sameStore
      exact ⟨written, rest, writtenRead, same.trans restoredDump.symm⟩

/-- A saved store is loaded from its bytes whatever follows them, and from no proper part of
them at the start; stores with different dumps have different bytes.  A store that is loaded
from any bytes is saved as those that were read, if and only if no key stands twice there. -/
theorem Reachable.snapshot_exact :
    (∀ store, Reachable store → Fits store →
      (∀ (disk : Disk) path trailing,
        disk.read? path = some (Snapshot.save store ++ trailing) →
          ∃ restored, Store.load disk path = .ok restored ∧ restored.dump = store.dump) ∧
      (∀ (disk : Disk) path cut lost, lost ≠ [] → Snapshot.save store = cut ++ lost →
        disk.read? path = some cut → Store.load disk path = .error .snapshot) ∧
      ∀ other, Reachable other → Fits other → other.dump ≠ store.dump →
        Snapshot.save other ≠ Snapshot.save store) ∧
    ∀ (disk : Disk) path bytes restored, disk.read? path = some bytes →
      Store.load disk path = .ok restored →
        ∃ written rest, decodeWritten bytes = some (written, rest) ∧
          decode bytes = some (restored.dump, rest) ∧
          (written.DistinctKeys → bytes = Snapshot.save restored ++ rest) ∧
          (bytes.length < 2 ^ 64 → ¬written.DistinctKeys →
            bytes ≠ Snapshot.save restored ++ rest) := by
  refine ⟨fun store reachable fits => ⟨?_, ?_, ?_⟩, ?_⟩
  · intro disk path trailing file
    rw [load_of_read? file]
    exact load_save reachable.sound.endsLive fits path trailing
  · intro disk path cut lost shorter whole file
    rw [load_of_read? file, Snapshot.load, fits.decode_eq_none_of_cut shorter whole]
  · intro other _ otherFits different same
    have reading := fits.reads []
    rw [← same, otherFits.reads []] at reading
    exact different (Prod.mk.inj (Option.some.inj reading)).1
  · intro disk path bytes restored file loaded
    rw [load_of_read? file] at loaded
    obtain ⟨written, rest, read, same⟩ := exists_of_load loaded
    refine ⟨written, rest, read, ?_, ?_, ?_⟩
    · rw [decode_eq, ← same, map_eq_pure_bind]
      change (decodeWritten bytes).bind _ = _
      rw [read]
      rfl
    · intro distinct
      rw [Snapshot.save, ← same]
      exact bytes_eq_encode_dump read distinct
    · intro small repeated whole
      rw [Snapshot.save, ← same] at whole
      exact repeated (distinctKeys_of_bytes_eq read small whole)

/-- A node with a key that stands twice. -/
def repeatedKey : Written := ⟨[⟨"T", [("k", .null), ("k", .bool true)]⟩], []⟩

theorem reads_repeatedKey : Reads decodeWritten (encodeWritten repeatedKey) repeatedKey :=
  reads_written (by decide +kernel) nofun

/-- The snapshot of a store with empty cells, with bytes after it and without its last byte, and
a snapshot with a key that stands twice. -/
theorem snapshot_exact_scattered :
    let whole := Snapshot.save scattered
    let holding (bytes : List UInt8) := (({} : Disk).write "graph.bin" bytes).getD {}
    (∃ restored, Store.load (holding (whole ++ [0, 7])) "graph.bin" = .ok restored ∧
        restored.dump = scattered.dump ∧ whole ++ [0, 7] = Snapshot.save restored ++ [0, 7]) ∧
      Store.load (holding whole.dropLast) "graph.bin" = .error .snapshot ∧
      Snapshot.save tangled ≠ whole ∧
      ∃ restored, Store.load (holding (encodeWritten repeatedKey)) "graph.bin" = .ok restored ∧
        encodeWritten repeatedKey ≠ Snapshot.save restored := by
  intro whole holding
  have deleted : tangled.deleteNode 0 true = .ok scattered := rfl
  have reachable : Reachable scattered := reachable_tangled.step (.deleteNode deleted)
  have fits : Fits scattered := ⟨by decide +kernel, by decide +kernel⟩
  have tangledFits : Fits tangled := ⟨by decide +kernel, by decide +kernel⟩
  have file : ∀ bytes, (holding bytes).read? "graph.bin" = some bytes := fun _ => rfl
  obtain ⟨ofStores, ofBytes⟩ := Reachable.snapshot_exact
  obtain ⟨onAll, ofCut, different⟩ := ofStores scattered reachable fits
  have nonempty : whole ≠ [] := by decide +kernel
  refine ⟨?_, ?_, ?_, ?_⟩
  · obtain ⟨restored, loaded, same⟩ := onAll _ "graph.bin" [0, 7] (file _)
    refine ⟨restored, loaded, same, ?_⟩
    rw [Snapshot.save, same]
    rfl
  · exact ofCut _ "graph.bin" whole.dropLast [whole.getLast nonempty] (by simp)
      (List.dropLast_append_getLast nonempty).symm (file _)
  · exact different tangled reachable_tangled tangledFits (by decide +kernel)
  · have read := reads_repeatedKey []
    rw [List.append_nil] at read
    have dumped : decode (encodeWritten repeatedKey) = some (repeatedKey.dump, []) := by
      have reads := reads_repeatedKey.convert Written.dump []
      rwa [← decode_eq, List.append_nil] at reads
    have inside : ∀ edge ∈ repeatedKey.dump.edges,
        edge.source < repeatedKey.dump.nodes.length ∧
          edge.target < repeatedKey.dump.nodes.length := nofun
    obtain ⟨restored, restores, -⟩ := exists_ofDump? inside
    have loaded : Store.load (holding (encodeWritten repeatedKey)) "graph.bin" = .ok restored := by
      rw [load_of_read? (file _), Snapshot.load, dumped]
      dsimp only
      rw [restores]
    obtain ⟨written, rest, writtenRead, -, -, changed⟩ :=
      ofBytes _ "graph.bin" _ restored (file _) loaded
    cases read.symm.trans writtenRead
    refine ⟨restored, loaded, ?_⟩
    have small : (encodeWritten repeatedKey).length < 2 ^ 64 := by decide +kernel
    have repeated : ¬repeatedKey.DistinctKeys :=
      fun distinct => absurd (distinct.1 _ List.mem_cons_self) (by decide)
    simpa using changed small repeated

end CodeGraph.Store
