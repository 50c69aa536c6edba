import CodeGraph.Proofs.Store.Restored
import CodeGraph.Session.Embedded

/-!
# What a session does to its directory

Starting a session changes at most the lock file, which keeps its number, and ending one
changes at most the snapshot and the file beside it.  The lock is held as often as the
number of the lock file is locked.
-/

namespace CodeGraph

namespace Disk

variable {disk after : Disk} {place location : Location} {path directory : String}

/-! ## Files by their locations -/

/-- The number and the content of the file at a location. -/
def file? (disk : Disk) (location : Location) : Option (Nat × List UInt8) :=
  match disk.at? location with
  | some (.file number content) => some (number, content)
  | _ => none

theorem file?_eq_some_iff {number : Nat} {content : List UInt8} :
    disk.file? location = some (number, content) ↔
      disk.at? location = some (.file number content) := by
  unfold file?
  split <;> simp_all

theorem AddsDirectories.file?_eq (adds : AddsDirectories disk after) (location : Location) :
    after.file? location = disk.file? location := by
  ext ⟨number, content⟩
  rw [file?_eq_some_iff, file?_eq_some_iff]
  exact ⟨adds.added location number content, adds.kept location _⟩

theorem file?_congr (same : after.at? location = disk.at? location) :
    after.file? location = disk.file? location := by
  rw [file?, file?, same]

/-- The number of the lock file of the store directory at a place. -/
def lockNumber? (disk : Disk) (place : Location) : Option Nat :=
  (disk.file? (place ++ [lockFileName])).map (·.1)

/-- What the snapshot of the store directory at a place holds. -/
def snapshot? (disk : Disk) (place : Location) : Option (List UInt8) :=
  (disk.file? (place ++ [snapshotFileName])).map (·.2)

/-- How often the lock of the store directory at a place is held. -/
def lockCount (disk : Disk) (place : Location) : Nat :=
  match disk.lockNumber? place with
  | some number => disk.locked.count number
  | none => 0

theorem lockCount_of_lockNumber? {number : Nat} (found : disk.lockNumber? place = some number) :
    disk.lockCount place = disk.locked.count number := by
  rw [lockCount, found]

@[simp] theorem unlock_lock (disk : Disk) (number : Nat) :
    (disk.lock number).unlock number = disk := by
  simp [lock, unlock]

theorem lockCount_lock {number : Nat} (found : disk.lockNumber? place = some number) :
    (disk.lock number).lockCount place = disk.lockCount place + 1 := by
  have same : (disk.lock number).lockNumber? place = some number := found
  rw [lockCount_of_lockNumber? found, lockCount_of_lockNumber? same]
  exact List.count_cons_self

theorem lockCount_unlock {number : Nat} (found : disk.lockNumber? place = some number) :
    (disk.unlock number).lockCount place = disk.lockCount place - 1 := by
  have same : (disk.unlock number).lockNumber? place = some number := found
  rw [lockCount_of_lockNumber? found, lockCount_of_lockNumber? same]
  exact List.count_erase_self

/-! ## Paths into the directory -/

theorem isPlain_lockFileName : Path.IsPlain lockFileName := by
  constructor <;> decide

theorem isPlain_snapshotFileName : Path.IsPlain snapshotFileName := by
  constructor <;> decide

/-- The name of the file that a snapshot is written to before it is renamed. -/
def temporaryFileName : String := "graph.tmp"

theorem isPlain_temporaryFileName : Path.IsPlain temporaryFileName := by
  constructor <;> decide

theorem withExtension_snapshotFileName (directory : String) :
    Path.withExtension (Path.join directory snapshotFileName) "tmp" =
      Path.join directory temporaryFileName :=
  Path.withExtension_join isPlain_snapshotFileName directory "tmp" isPlain_temporaryFileName
    (by decide)

theorem locate?_join {name : String} (plain : Path.IsPlain name) :
    disk.locate? (Path.join directory name) = some location ↔
      ∃ before, (Path.parts directory).foldlM disk.step
          (if Path.isAbsolute directory then [] else disk.workingDirectory) = some before ∧
        disk.hasDirectory before = true ∧ before ++ [name] = location := by
  have nonempty : Path.join directory name ≠ "" := by
    intro empty
    have parts := Path.parts_join plain directory
    rw [empty] at parts
    exact List.append_ne_nil_of_right_ne_nil _ (List.cons_ne_nil name []) parts.symm
  have stepped : ∀ before, follow before name = before ++ [name] := by
    intro before
    rw [follow, if_neg plain.not_here, if_neg plain.not_up]
  unfold locate?
  rw [Path.parts_join plain, Path.isAbsolute_join plain, List.foldlM_append,
    if_neg (by simpa using nonempty)]
  simp only [List.foldlM_cons, List.foldlM_nil, bind_pure, Option.bind_eq_bind,
    Option.bind_eq_some_iff, step_eq_some_iff, stepped]

/-- A directory in which one file can be reached is one in which every file can. -/
theorem locate?_join_of_locate?_join {name other : String} (plain : Path.IsPlain name)
    (otherPlain : Path.IsPlain other)
    (located : disk.locate? (Path.join directory name) = some (place ++ [name])) :
    disk.locate? (Path.join directory other) = some (place ++ [other]) := by
  obtain ⟨before, followed, here, same⟩ := (locate?_join plain).mp located
  rw [List.append_cancel_right same] at followed here
  exact (locate?_join otherPlain).mpr ⟨place, followed, here, rfl⟩

theorem asksDirectory_join {name : String} (plain : Path.IsPlain name) (directory : String) :
    asksDirectory (Path.join directory name) = false := by
  obtain ⟨before, joined⟩ := Path.exists_join_eq plain directory
  have nonempty : name.toList ≠ [] := by simpa using plain.nonempty
  obtain ⟨front, last, named⟩ := (List.eq_nil_or_concat name.toList).resolve_left nonempty
  rw [List.concat_eq_append] at named
  have undivided := plain.undivided
  rw [named, List.mem_append, List.mem_singleton, not_or] at undivided
  have noSlash : last ≠ '/' := Ne.symm undivided.2
  rw [asksDirectory, joined, String.toList_append, named]
  rcases List.eq_nil_or_concat front with rfl | ⟨earlier, second, rfl⟩
  · have notDot : last ≠ '.' := by
      rintro rfl
      exact plain.not_here (String.toList_inj.mp named)
    simp [List.isPrefixOf, Ne.symm noSlash, Ne.symm notDot]
  · have secondNoSlash : second ≠ '/' := by
      rintro rfl
      exact undivided.1 (by simp)
    simp [List.isPrefixOf, Ne.symm noSlash, Ne.symm secondNoSlash]

/-! ## What is changed -/

/-- No directory is lost, and the lock file keeps its number. -/
structure KeepsLock (place : Location) (disk after : Disk) : Prop where
  sound : after.Sound
  keeps : KeepsDirectories disk after
  lockNumber : ∀ number, disk.lockNumber? place = some number →
    after.lockNumber? place = some number

/-- Of the files, only those with some names in the directory at a place may change, and the
lock is held as often as before. -/
structure Touches (place : Location) (names : List String) (disk after : Disk) : Prop
    extends KeepsLock place disk after where
  files : ∀ location, (∀ name ∈ names, location ≠ place ++ [name]) →
    after.file? location = disk.file? location
  lockCount : after.lockCount place = disk.lockCount place

theorem KeepsLock.lock {number : Nat} (kept : KeepsLock place disk after)
    (found : after.lockNumber? place = some number) :
    KeepsLock place disk (after.lock number) := by
  obtain ⟨⟨other, content⟩, file, rfl⟩ := Option.map_eq_some_iff.mp found
  have used := kept.sound.numbered _ _ _ (file?_eq_some_iff.mp file)
  have sound : (after.lock other).Sound :=
    ⟨kept.sound.inDirectory, kept.sound.numbered,
      List.forall_mem_cons.mpr ⟨used, kept.sound.locked⟩⟩
  exact ⟨sound, ⟨kept.keeps.directories, kept.keeps.workingDirectory⟩, kept.lockNumber⟩

theorem KeepsLock.unlock (kept : KeepsLock place disk after) (number : Nat) :
    KeepsLock place disk (after.unlock number) := by
  have sound : (after.unlock number).Sound :=
    ⟨kept.sound.inDirectory, kept.sound.numbered,
      fun other member => kept.sound.locked other (List.mem_of_mem_erase member)⟩
  exact ⟨sound, ⟨kept.keeps.directories, kept.keeps.workingDirectory⟩, kept.lockNumber⟩

theorem KeepsLock.trans {between : Disk} (first : KeepsLock place disk between)
    (second : KeepsLock place between after) : KeepsLock place disk after :=
  ⟨second.sound, first.keeps.trans second.keeps,
    fun number found => second.lockNumber number (first.lockNumber number found)⟩

theorem Touches.refl (sound : disk.Sound) (place : Location) (names : List String) :
    Touches place names disk disk :=
  ⟨⟨sound, .refl disk, fun _ => id⟩, fun _ _ => rfl, rfl⟩

theorem Touches.trans {between : Disk} {names : List String}
    (first : Touches place names disk between) (second : Touches place names between after) :
    Touches place names disk after where
  toKeepsLock := first.toKeepsLock.trans second.toKeepsLock
  files location untouched :=
    (second.files location untouched).trans (first.files location untouched)
  lockCount := second.lockCount.trans first.lockCount

theorem Touches.snapshot?_eq {names : List String} (touches : Touches place names disk after)
    (untouched : snapshotFileName ∉ names) : after.snapshot? place = disk.snapshot? place := by
  rw [snapshot?, touches.files, snapshot?]
  intro name member same
  cases List.append_cancel_left same
  exact untouched member

/-- The lock is as it was if the lock file is not among the files that change. -/
theorem Touches.of_files {names : List String} (sound : after.Sound)
    (keeps : KeepsDirectories disk after) (locked : after.locked = disk.locked)
    (files : ∀ location, (∀ name ∈ names, location ≠ place ++ [name]) →
      after.file? location = disk.file? location)
    (untouched : lockFileName ∉ names) : Touches place names disk after := by
  have number : after.lockNumber? place = disk.lockNumber? place := by
    rw [lockNumber?, files, lockNumber?]
    intro name member same
    cases List.append_cancel_left same
    exact untouched member
  refine ⟨⟨sound, keeps, fun found => by rw [number]; exact id⟩, files, ?_⟩
  rw [Disk.lockCount, number, locked, Disk.lockCount]

theorem AddsDirectories.touches (adds : AddsDirectories disk after) (sound : disk.Sound)
    (place : Location) (names : List String) : Touches place names disk after := by
  have number : after.lockNumber? place = disk.lockNumber? place := by
    rw [lockNumber?, adds.file?_eq, lockNumber?]
  refine ⟨⟨adds.sound sound, adds.keeps, fun found => by rw [number]; exact id⟩,
    fun location _ => adds.file?_eq location, ?_⟩
  rw [Disk.lockCount, number, adds.locked, Disk.lockCount]

end Disk

/-! ## Taking the lock -/

namespace StoreLock

open Disk

variable {disk after : Disk} {place : Location} {directory : String} {number : Nat}

/-- The path of the lock file leads to the lock file in the directory at a place. -/
def Leads (directory : String) (place : Location) (disk : Disk) : Prop :=
  disk.locate? (path directory) = some (place ++ [lockFileName])

theorem Leads.of_keeps (leads : Leads directory place disk)
    (keeps : KeepsDirectories disk after) : Leads directory place after :=
  locate?_of_keeps keeps leads

theorem fileNumber?_eq_some_iff (leads : Leads directory place disk) :
    disk.fileNumber? (path directory) = some number ↔
      disk.lockNumber? place = some number := by
  have same : ∀ content, disk.find? (path directory) = some (.file number content) ↔
      disk.file? (place ++ [lockFileName]) = some (number, content) := by
    intro content
    rw [find?_eq_file_iff, file?_eq_some_iff]
    constructor
    · rintro ⟨-, location, located, found⟩
      cases leads.symm.trans located
      exact found
    · exact fun found => ⟨asksDirectory_join isPlain_lockFileName directory, _, leads, found⟩
  constructor
  · intro found
    unfold fileNumber? at found
    split at found
    next content here =>
      cases found
      rw [lockNumber?, (same content).mp here]
      rfl
    next => cases found
  · intro found
    obtain ⟨⟨other, content⟩, here, rfl⟩ := Option.map_eq_some_iff.mp found
    rw [fileNumber?, (same content).mpr here]

theorem leads_of_fileNumber? (found : disk.fileNumber? (path directory) = some number)
    (resolved : disk.resolve directory = place) : Leads directory place disk := by
  unfold fileNumber? at found
  split at found
  next content here =>
    obtain ⟨-, location, located, -⟩ := find?_eq_file_iff.mp here
    have same := resolve_of_locate? located
    rw [path, resolve_join isPlain_lockFileName, resolved] at same
    rw [Leads, located, same]
  next => cases found

theorem touches_of_write (sound : disk.Sound) (resolved : disk.resolve directory = place)
    {content : List UInt8} (written : disk.write (path directory) content = some after) :
    Touches place [lockFileName] disk after := by
  obtain ⟨location, number, found, puts, old, fresh⟩ := sound.putsFile_of_write written
  have same := resolve_of_locate? (fileLocation?_eq_some_iff.mp found).1
  rw [path, resolve_join isPlain_lockFileName, resolved] at same
  subst location
  have here : after.lockNumber? place = some number := by
    rw [lockNumber?, file?_eq_some_iff.mpr puts.at?_self]
    rfl
  have kept : ∀ before, disk.lockNumber? place = some before → number = before := by
    intro before was
    obtain ⟨⟨other, bytes⟩, file, rfl⟩ := Option.map_eq_some_iff.mp was
    exact old other bytes (file?_eq_some_iff.mp file)
  refine ⟨⟨puts.sound sound, puts.keeps, fun before was => kept before was ▸ here⟩, ?_, ?_⟩
  · exact fun location untouched =>
      file?_congr (puts.at?_of_ne (untouched lockFileName List.mem_cons_self))
  · rw [lockCount_of_lockNumber? here, puts.locked]
    cases was : disk.lockNumber? place with
    | some before => rw [lockCount_of_lockNumber? was, kept before was]
    | none =>
        -- a new file has a number that is not locked
        have nothing : disk.at? (place ++ [lockFileName]) = none := by
          cases entry : disk.at? (place ++ [lockFileName]) with
          | none => rfl
          | some found =>
              cases found with
              | directory =>
                  have free := puts.free
                  rw [hasDirectory_iff.mpr entry] at free
                  cases free
              | file other bytes =>
                  rw [lockNumber?, file?_eq_some_iff.mpr entry] at was
                  cases was
        rw [Disk.lockCount, was, List.count_eq_zero]
        intro member
        have earlier := sound.locked number member
        rw [fresh nothing] at earlier
        exact Nat.lt_irrefl _ earlier

theorem touches_of_openFile (sound : disk.Sound) (resolved : disk.resolve directory = place)
    (opened : openFile directory disk = some (number, after)) :
    Touches place [lockFileName] disk after ∧ Leads directory place after ∧
      after.lockNumber? place = some number := by
  have named : Touches place [lockFileName] disk after →
      after.fileNumber? (path directory) = some number →
      Touches place [lockFileName] disk after ∧ Leads directory place after ∧
        after.lockNumber? place = some number := by
    intro touches found
    have leads := leads_of_fileNumber? found ((touches.keeps.resolve directory).trans resolved)
    exact ⟨touches, leads, (fileNumber?_eq_some_iff leads).mp found⟩
  unfold openFile at opened
  split at opened
  next found =>
    cases opened
    exact named (.refl sound place _) found
  next =>
    split at opened
    next written writes =>
      obtain ⟨other, found, same⟩ := Option.map_eq_some_iff.mp opened
      cases same
      exact named (touches_of_write sound resolved writes) found
    next => cases opened

theorem acquire_of_error (sound : disk.Sound) (resolved : disk.resolve directory = place)
    {failure : Failure} (tried : acquire directory disk = (.error failure, after)) :
    Touches place [lockFileName] disk after := by
  unfold acquire at tried
  split at tried
  · cases tried
    exact .refl sound place _
  next opened opens =>
    obtain ⟨touches, -⟩ := touches_of_openFile sound resolved opens
    split at tried
    · cases tried
      exact touches
    · split at tried
      · cases tried
        exact touches
      · cases tried

/-- Whoever takes the lock was the first to hold it. -/
theorem acquire_of_ok (sound : disk.Sound) (resolved : disk.resolve directory = place)
    (acquired : acquire directory disk = (.ok number, after)) :
    ∃ written, after = written.lock number ∧ Touches place [lockFileName] disk written ∧
      Leads directory place written ∧ written.lockNumber? place = some number ∧
      disk.lockCount place = 0 := by
  unfold acquire at acquired
  split at acquired
  · cases acquired
  next opened opens =>
    obtain ⟨touches, leads, found⟩ := touches_of_openFile sound resolved opens
    split at acquired
    · cases acquired
    next unlocked =>
      split at acquired
      · cases acquired
      next written writes =>
        cases acquired
        have again := touches_of_write touches.sound
          ((touches.keeps.resolve directory).trans resolved) writes
        refine ⟨written, rfl, touches.trans again, leads.of_keeps again.keeps,
          again.lockNumber number found, ?_⟩
        rw [← touches.lockCount, lockCount_of_lockNumber? found, List.count_eq_zero]
        simpa [isLocked] using unlocked

end StoreLock

/-! ## Starting -/

theorem SessionState.requireUninitialized_eq_ok_iff {state : SessionState} :
    state.requireUninitialized = .ok () ↔ state = .uninitialized := by
  unfold requireUninitialized
  split <;> simp_all

namespace EmbeddedSession

open Disk StoreLock

variable {disk after : Disk} {place : Location} {session started : EmbeddedSession}

/-- A session that is rejected stays as it was, and leaves the snapshot alone. -/
theorem startup_of_error (sound : disk.Sound) (resolved : disk.resolve session.path = place)
    {failure : Failure} (tried : session.startup disk = (.error failure, started, after)) :
    started = session ∧ Touches place [lockFileName] disk after := by
  have untouched := Touches.refl sound place [lockFileName]
  unfold startup at tried
  split at tried
  · cases tried
    exact ⟨rfl, untouched⟩
  · split at tried
    · cases tried
      exact ⟨rfl, untouched⟩
    next made makes =>
      have adds := addsDirectories_of_makeDirectories makes
      have touches := adds.touches sound place [lockFileName]
      have madeResolved := (adds.keeps.resolve session.path).trans resolved
      split at tried
      next acquired =>
        cases tried
        exact ⟨rfl, touches.trans (acquire_of_error touches.sound madeResolved acquired)⟩
      next number locked acquired =>
        obtain ⟨written, rfl, taken, -⟩ := acquire_of_ok touches.sound madeResolved acquired
        split at tried
        · cases tried
          rw [unlock_lock]
          exact ⟨rfl, touches.trans taken⟩
        · cases tried

/-- A session that starts was the first to hold the lock, and has read the snapshot. -/
theorem startup_of_ok (sound : disk.Sound) (resolved : disk.resolve session.path = place)
    (starts : session.startup disk = (.ok (), started, after)) :
    session.state = .uninitialized ∧ disk.lockCount place = 0 ∧
      ∃ number store written,
        started = { session with state := .ready, store, lock := some number } ∧
        after = written.lock number ∧ Touches place [lockFileName] disk written ∧
        Leads session.path place written ∧ written.lockNumber? place = some number ∧
        session.stored after = .ok store := by
  unfold startup at starts
  split at starts
  · cases starts
  next allowed =>
    have fresh := SessionState.requireUninitialized_eq_ok_iff.mp allowed
    split at starts
    · cases starts
    next made makes =>
      have adds := addsDirectories_of_makeDirectories makes
      have touches := adds.touches sound place [lockFileName]
      have madeResolved := (adds.keeps.resolve session.path).trans resolved
      split at starts
      · cases starts
      next number locked acquired =>
        obtain ⟨written, rfl, taken, leads, found, free⟩ :=
          acquire_of_ok touches.sound madeResolved acquired
        split at starts
        · cases starts
        next store loaded =>
          cases starts
          exact ⟨fresh, touches.lockCount ▸ free, number, store, written, rfl, rfl,
            touches.trans taken, leads, found, loaded⟩

/-! ## Reading the snapshot -/

theorem find?_snapshot {directory : String} (leads : Leads directory place disk) :
    disk.find? (Path.join directory snapshotFileName) =
      disk.at? (place ++ [snapshotFileName]) := by
  have located := locate?_join_of_locate?_join isPlain_lockFileName isPlain_snapshotFileName leads
  rw [find?, located, Option.bind_some, asksDirectory_join isPlain_snapshotFileName]
  split <;> simp_all

theorem stored_of_some (leads : Leads session.path place disk) {bytes : List UInt8}
    (found : disk.snapshot? place = some bytes) :
    session.stored disk = Snapshot.load session.snapshotPath bytes := by
  obtain ⟨⟨number, content⟩, file, rfl⟩ := Option.map_eq_some_iff.mp found
  have here := (find?_snapshot leads).trans (file?_eq_some_iff.mp file)
  rw [stored, has, snapshotPath, here, Option.isSome_some, if_pos rfl, Store.load, here]

/-- Without a snapshot a session starts with an empty store. -/
theorem stored_of_none (leads : Leads session.path place disk) {store : Store}
    (missing : disk.snapshot? place = none) (loaded : session.stored disk = .ok store) :
    store = Store.empty := by
  have here := find?_snapshot leads
  have noFile : disk.file? (place ++ [snapshotFileName]) = none :=
    Option.map_eq_none_iff.mp missing
  rw [stored, has, snapshotPath, here] at loaded
  cases entry : disk.at? (place ++ [snapshotFileName]) with
  | none =>
      rw [entry] at loaded
      cases loaded
      rfl
  | some found =>
      cases found with
      | directory =>
          rw [entry] at loaded
          rw [Option.isSome_some, if_pos rfl, Store.load, here, entry] at loaded
          cases loaded
      | file number content =>
          rw [file?_eq_some_iff.mpr entry] at noFile
          cases noFile

theorem storedStats_of_some {directory : String} (leads : Leads directory place disk)
    {bytes : List UInt8} (found : disk.snapshot? place = some bytes) :
    storedStats directory disk =
      (Snapshot.load (Path.join directory snapshotFileName) bytes).map (some ·.stats) := by
  obtain ⟨⟨number, content⟩, file, rfl⟩ := Option.map_eq_some_iff.mp found
  have here := (find?_snapshot leads).trans (file?_eq_some_iff.mp file)
  rw [storedStats, isFile, here]
  dsimp only
  rw [if_pos rfl, Store.load, here]

theorem storedStats_of_none {directory : String} (leads : Leads directory place disk)
    (missing : disk.snapshot? place = none) : storedStats directory disk = .ok none := by
  have noFile : disk.file? (place ++ [snapshotFileName]) = none :=
    Option.map_eq_none_iff.mp missing
  rw [storedStats, isFile, find?_snapshot leads]
  split
  next number content entry =>
    rw [file?_eq_some_iff.mpr entry] at noFile
    cases noFile
  next => rfl

/-! ## Ending -/

/-- A session that ends while it is ready leaves its store in the snapshot. -/
theorem shutdown_of_ready (sound : disk.Sound) (resolved : disk.resolve session.path = place)
    (ready : session.state = .ready)
    (saves : (session.store.save session.snapshotPath disk).1 = .ok ()) :
    ∃ written, Touches place [snapshotFileName, temporaryFileName] disk written ∧
      written.snapshot? place = some (Snapshot.save session.store) ∧
      session.shutdown disk =
        (.ok (), { session with state := .closed, lock := none }, session.release written) := by
  rcases saved : session.store.save session.snapshotPath disk with ⟨outcome, written⟩
  rw [saved] at saves
  cases saves
  have hasSaved := Store.hasSaved_of_save sound saved
  have here : disk.resolve session.snapshotPath = place ++ [snapshotFileName] := by
    rw [snapshotPath, resolve_join isPlain_snapshotFileName, resolved]
  have beside : disk.resolve (Path.withExtension session.snapshotPath "tmp") =
      place ++ [temporaryFileName] := by
    rw [snapshotPath, withExtension_snapshotFileName, resolve_join isPlain_temporaryFileName,
      resolved]
  refine ⟨written, ?_, ?_, ?_⟩
  · refine Touches.of_files hasSaved.sound hasSaved.keeps hasSaved.locked ?_ (by decide)
    intro location untouched
    refine file?_congr (hasSaved.others location ?_ ?_)
    · exact here ▸ untouched snapshotFileName (by simp)
    · exact beside ▸ untouched temporaryFileName (by simp)
  · obtain ⟨number, found⟩ := hasSaved.saved
    rw [here] at found
    rw [snapshot?, file?_eq_some_iff.mpr found]
    rfl
  · rw [shutdown, ready]
    dsimp only
    rw [saved]

/-- A session that is dropped leaves its store in the snapshot only if it is ready and has
been set to shut down. -/
theorem drop_eq_release (sound : disk.Sound) (resolved : disk.resolve session.path = place)
    (saves : session.autoShutdown = true → session.state = .ready →
      (session.store.save session.snapshotPath disk).1 = .ok ()) :
    ∃ written, Touches place [snapshotFileName, temporaryFileName] disk written ∧
      session.drop disk = session.release written ∧
      written.snapshot? place =
        if session.autoShutdown = true ∧ session.state = .ready then
          some (Snapshot.save session.store)
        else disk.snapshot? place := by
  by_cases ends : session.autoShutdown = true ∧ session.state = .ready
  · obtain ⟨written, touches, saved, ended⟩ :=
      shutdown_of_ready sound resolved ends.2 (saves ends.1 ends.2)
    refine ⟨written, touches, ?_, by rw [if_pos ends, saved]⟩
    rw [drop, if_pos (by simp [ends]), ended]
  · refine ⟨disk, .refl sound place _, ?_, by rw [if_neg ends]⟩
    rw [drop, if_neg (by simpa using ends)]

end EmbeddedSession

end CodeGraph
