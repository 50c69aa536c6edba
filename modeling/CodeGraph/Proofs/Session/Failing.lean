import CodeGraph.Proofs.Session.Directory
import CodeGraph.Session.Faults

/-!
# Starts and ends that fail

A start that fails leaves the session as it was, and of the files it changes at most the lock
file.  Its lock is given up, so that a session can start as soon as nothing else is in the way.
An end that fails closes the session and gives up its lock, and of the files it changes at most
the one beside the snapshot.
-/

namespace CodeGraph

namespace EmbeddedSession

/-! ## Where no operation fails -/

variable (session : EmbeddedSession) (disk : Disk)

theorem startupUnder_none : session.startupUnder none disk = session.startup disk := by
  unfold startupUnder startup Disk.makeDirectoriesUnder
  cases session.state.requireUninitialized with
  | error failure => rfl
  | ok allowed =>
      dsimp only
      cases disk.makeDirectories session.path with
      | none => rfl
      | some made => rfl

theorem shutdownUnder_none : session.shutdownUnder none disk = session.shutdown disk := rfl

end EmbeddedSession

/-! ## What stays -/

namespace Disk

variable {disk between after : Disk} {place : Location} {names : List String}

theorem locked_of_write {path : String} {content : List UInt8}
    (written : disk.write path content = some after) : after.locked = disk.locked := by
  unfold write at written
  split at written
  · cases written
  · split at written <;> cases written <;> rfl

/-- Of the files, only those with some names in the directory at a place may change, and no lock
is taken or given up. -/
structure LeavesLocks (place : Location) (names : List String) (disk after : Disk) : Prop
    extends Touches place names disk after where
  locked : after.locked = disk.locked

theorem LeavesLocks.refl (sound : disk.Sound) (place : Location) (names : List String) :
    LeavesLocks place names disk disk :=
  ⟨.refl sound place names, rfl⟩

theorem LeavesLocks.trans (first : LeavesLocks place names disk between)
    (second : LeavesLocks place names between after) : LeavesLocks place names disk after :=
  ⟨first.toTouches.trans second.toTouches, second.locked.trans first.locked⟩

end Disk

namespace StoreLock

open Disk

variable {disk between after : Disk} {place : Location} {directory : String} {number : Nat}
  {fault : Option StartupFault}

/-- Nothing but the lock file changes. -/
structure OnlyLockFile (place : Location) (disk after : Disk) : Prop
    extends LeavesLocks place [lockFileName] disk after where
  others : ∀ asked, asked ≠ place ++ [lockFileName] → after.at? asked = disk.at? asked
  noDirectory : disk.hasDirectory (place ++ [lockFileName]) = false →
    after.hasDirectory (place ++ [lockFileName]) = false

theorem OnlyLockFile.refl (sound : disk.Sound) (place : Location) : OnlyLockFile place disk disk :=
  ⟨.refl sound place _, fun _ _ => rfl, id⟩

theorem OnlyLockFile.trans (first : OnlyLockFile place disk between)
    (second : OnlyLockFile place between after) : OnlyLockFile place disk after :=
  ⟨first.toLeavesLocks.trans second.toLeavesLocks,
    fun asked elsewhere => (second.others asked elsewhere).trans (first.others asked elsewhere),
    fun free => second.noDirectory (first.noDirectory free)⟩

theorem onlyLockFile_of_write (sound : disk.Sound) (resolved : disk.resolve directory = place)
    {content : List UInt8} (written : disk.write (path directory) content = some after) :
    OnlyLockFile place disk after := by
  obtain ⟨location, number, found, puts, -⟩ := sound.putsFile_of_write written
  have here : place ++ [lockFileName] = location := by
    rw [← resolve_of_locate? (fileLocation?_eq_some_iff.mp found).1, path,
      resolve_join isPlain_lockFileName, resolved]
  subst location
  refine ⟨⟨touches_of_write sound resolved written, locked_of_write written⟩,
    fun asked => puts.at?_of_ne, fun _ => ?_⟩
  rw [hasDirectory, puts.at?_self]
  rfl

theorem onlyLockFile_of_openFile (sound : disk.Sound) (resolved : disk.resolve directory = place)
    (opened : openFile directory disk = some (number, after)) : OnlyLockFile place disk after := by
  unfold openFile at opened
  split at opened
  · cases opened
    exact .refl sound place
  · split at opened
    next written writes =>
      obtain ⟨other, -, same⟩ := Option.map_eq_some_iff.mp opened
      cases same
      exact onlyLockFile_of_write sound resolved writes
    next => cases opened

/-- Whatever fails, nothing but the lock file changes, and the lock is held only if there is no
failure. -/
theorem acquireUnder_cases (sound : disk.Sound) (resolved : disk.resolve directory = place)
    {outcome : Except Failure Nat} (tried : acquireUnder fault directory disk = (outcome, after)) :
    ∃ written, OnlyLockFile place disk written ∧
      ((∃ failure, outcome = .error failure ∧ after = written) ∨
        ∃ number, outcome = .ok number ∧ after = written.lock number) := by
  have untouched := OnlyLockFile.refl sound place
  unfold acquireUnder at tried
  split at tried
  · cases tried
    exact ⟨_, untouched, .inl ⟨_, rfl, rfl⟩⟩
  · split at tried
    · cases tried
      exact ⟨_, untouched, .inl ⟨_, rfl, rfl⟩⟩
    next number opened opens =>
      have leaves := onlyLockFile_of_openFile sound resolved opens
      have wrote : ∀ {content written}, opened.write (path directory) content = some written →
          OnlyLockFile place disk written := fun writes =>
        leaves.trans (onlyLockFile_of_write leaves.sound
          ((leaves.keeps.resolve directory).trans resolved) writes)
      split at tried
      · cases tried
        exact ⟨_, leaves, .inl ⟨_, rfl, rfl⟩⟩
      · split at tried
        · cases tried
          exact ⟨_, leaves, .inl ⟨_, rfl, rfl⟩⟩
        · -- the lock was taken and is given up again, unless the whole owner is written
          split at tried
          · cases tried
            exact ⟨_, leaves, .inl ⟨_, rfl, unlock_lock _ _⟩⟩
          · split at tried
            · cases tried
              exact ⟨_, leaves, .inl ⟨_, rfl, rfl⟩⟩
            next written writes =>
              cases tried
              exact ⟨_, wrote writes, .inl ⟨_, rfl, unlock_lock _ _⟩⟩
          · split at tried
            · cases tried
              exact ⟨_, leaves, .inl ⟨_, rfl, rfl⟩⟩
            next written writes =>
              cases tried
              exact ⟨_, wrote writes, .inr ⟨_, rfl, rfl⟩⟩

/-! ## A lock that is free -/

theorem resolve_of_leads (leads : Leads directory place disk) : disk.resolve directory = place := by
  have same := resolve_of_locate? leads
  rw [path, resolve_join isPlain_lockFileName] at same
  exact List.append_cancel_right same

/-- The lock file can be written if no directory is in its place. -/
theorem exists_write (leads : Leads directory place disk)
    (noDirectory : disk.hasDirectory (place ++ [lockFileName]) = false) (content : List UInt8) :
    ∃ written, disk.write (path directory) content = some written := by
  obtain ⟨before, -, here, same⟩ := (locate?_join isPlain_lockFileName).mp leads
  have parent : disk.hasDirectory (place ++ [lockFileName]).dropLast = true := by
    rw [List.dropLast_concat, ← List.append_cancel_right same]
    exact here
  have found : disk.fileLocation? (path directory) = some (place ++ [lockFileName]) :=
    fileLocation?_eq_some_iff.mpr
      ⟨leads, asksDirectory_join isPlain_lockFileName directory, noDirectory, parent⟩
  unfold write
  rw [found]
  dsimp only
  split <;> exact ⟨_, rfl⟩

/-- The lock file can be opened, and its number is that of the file. -/
theorem exists_openFile (sound : disk.Sound) (leads : Leads directory place disk)
    (noDirectory : disk.hasDirectory (place ++ [lockFileName]) = false) :
    ∃ number opened, openFile directory disk = some (number, opened) := by
  unfold openFile
  cases found : disk.fileNumber? (path directory) with
  | some number => exact ⟨number, disk, rfl⟩
  | none =>
      obtain ⟨written, writes⟩ := exists_write leads noDirectory []
      obtain ⟨location, number, located, puts, -⟩ := sound.putsFile_of_write writes
      obtain rfl : place ++ [lockFileName] = location :=
        Option.some.inj (leads.symm.trans (fileLocation?_eq_some_iff.mp located).1)
      have here : written.lockNumber? place = some number := by
        rw [lockNumber?, file?_eq_some_iff.mpr puts.at?_self]
        rfl
      have numbered := (fileNumber?_eq_some_iff (leads.of_keeps puts.keeps)).mpr here
      refine ⟨number, written, ?_⟩
      dsimp only
      rw [writes]
      dsimp only
      rw [numbered]
      rfl

/-- The lock of a directory is taken if nobody holds it and nothing is in its way. -/
theorem exists_acquire (sound : disk.Sound) (leads : Leads directory place disk)
    (noDirectory : disk.hasDirectory (place ++ [lockFileName]) = false)
    (free : disk.lockCount place = 0) :
    ∃ number written, acquire directory disk = (.ok number, written.lock number) ∧
      OnlyLockFile place disk written := by
  have resolved := resolve_of_leads leads
  obtain ⟨number, opened, opens⟩ := exists_openFile sound leads noDirectory
  obtain ⟨touches, openedLeads, numbered⟩ := touches_of_openFile sound resolved opens
  have leaves := onlyLockFile_of_openFile sound resolved opens
  have unlocked : opened.isLocked number = false := by
    have count := touches.lockCount.trans free
    rw [lockCount_of_lockNumber? numbered, List.count_eq_zero] at count
    simpa [isLocked] using count
  obtain ⟨written, writes⟩ :=
    exists_write openedLeads (leaves.noDirectory noDirectory) (owner opened)
  refine ⟨number, written, ?_,
    leaves.trans (onlyLockFile_of_write leaves.sound (resolve_of_leads openedLeads) writes)⟩
  rw [acquire, opens]
  dsimp only
  rw [unlocked, writes]
  rfl

end StoreLock

namespace EmbeddedSession

open Disk StoreLock

variable {disk made after : Disk} {place : Location} {session other started : EmbeddedSession}
  {failure : Failure}

/-! ## Starting -/

theorem makeDirectoriesUnder_of_error {fault : Option StartupFault} {path : String}
    (tried : disk.makeDirectoriesUnder fault path = (.error failure, after)) :
    after = disk ∨ ∃ reached, fault = some (.makeDirectories reached) ∧
      disk.makeDirectories reached = some after := by
  unfold makeDirectoriesUnder at tried
  split at tried
  next reached =>
    obtain ⟨-, rfl⟩ := Prod.mk.inj tried
    cases reaches : disk.makeDirectories reached with
    | none => exact .inl rfl
    | some made => exact .inr ⟨reached, rfl, reaches⟩
  next =>
    split at tried <;> cases tried
    exact .inl rfl

theorem makeDirectoriesUnder_of_ok {fault : Option StartupFault} {path : String}
    (tried : disk.makeDirectoriesUnder fault path = (.ok (), after)) :
    disk.makeDirectories path = some after := by
  unfold makeDirectoriesUnder at tried
  split at tried
  · cases tried
  · split at tried <;> cases tried
    assumption

/-- A start that fails leaves the session as it was.  It fails before anything has changed, when
some directories have been made, or when at most the lock file has changed in the directory. -/
theorem startupUnder_of_error {fault : Option StartupFault} (sound : disk.Sound)
    (resolved : disk.resolve session.path = place)
    (tried : session.startupUnder fault disk = (.error failure, started, after)) :
    started = session ∧
      (after = disk ∨
        (∃ reached, fault = some (.makeDirectories reached) ∧
          disk.makeDirectories reached = some after) ∨
        ∃ made, disk.makeDirectories session.path = some made ∧ OnlyLockFile place made after) := by
  unfold startupUnder at tried
  split at tried
  · cases tried
    exact ⟨rfl, .inl rfl⟩
  · split at tried
    next late made makes =>
      cases tried
      exact ⟨rfl, (makeDirectoriesUnder_of_error makes).imp_right .inl⟩
    next made makes =>
      have reaches := makeDirectoriesUnder_of_ok makes
      have adds := addsDirectories_of_makeDirectories reaches
      have madeResolved := (adds.keeps.resolve session.path).trans resolved
      rcases acquired : acquireUnder fault session.path made with ⟨outcome, locked⟩
      rw [acquired] at tried
      obtain ⟨written, leaves, ⟨late, rfl, rfl⟩ | ⟨number, rfl, rfl⟩⟩ :=
        acquireUnder_cases (adds.sound sound) madeResolved acquired
      · cases tried
        exact ⟨rfl, .inr (.inr ⟨made, reaches, leaves⟩)⟩
      · dsimp only at tried
        split at tried
        · cases tried
          rw [unlock_lock]
          exact ⟨rfl, .inr (.inr ⟨made, reaches, leaves⟩)⟩
        · cases tried

theorem leavesLocks_of_startupUnder {fault : Option StartupFault} (sound : disk.Sound)
    (resolved : disk.resolve session.path = place)
    (tried : session.startupUnder fault disk = (.error failure, started, after)) :
    LeavesLocks place [lockFileName] disk after := by
  have added : ∀ {path made}, disk.makeDirectories path = some made →
      LeavesLocks place [lockFileName] disk made := by
    intro path made makes
    have adds := addsDirectories_of_makeDirectories makes
    exact ⟨adds.touches sound place _, adds.locked⟩
  obtain ⟨-, rfl | ⟨reached, -, makes⟩ | ⟨made, makes, leaves⟩⟩ :=
    startupUnder_of_error sound resolved tried
  · exact .refl sound place _
  · exact added makes
  · exact (added makes).trans leaves.toLeavesLocks

/-- What a session reads depends on what is in the place of the snapshot. -/
theorem stored_congr (leads : Leads session.path place disk)
    (leadsAfter : Leads session.path place after)
    (same : after.at? (place ++ [snapshotFileName]) = disk.at? (place ++ [snapshotFileName])) :
    session.stored after = session.stored disk := by
  have found : after.find? session.snapshotPath = disk.find? session.snapshotPath :=
    (find?_snapshot leadsAfter).trans (same.trans (find?_snapshot leads).symm)
  unfold stored has Store.load
  rw [found]

theorem snapshot_ne_lockFile (place : Location) :
    place ++ [snapshotFileName] ≠ place ++ [lockFileName] := by
  intro same
  exact absurd (List.append_cancel_left same) (by decide)

/-- Nothing is to be made where the way is there. -/
theorem makeDirectories_of_leads (leads : Leads session.path place disk) :
    disk.makeDirectories session.path = some disk := by
  obtain ⟨before, followed, here, -⟩ := (locate?_join isPlain_lockFileName).mp leads
  rw [makeDirectories, makeWay]
  split
  · rfl
  next nonempty =>
    have located : disk.locate? session.path = some before := by
      rw [locate?, if_neg nonempty]
      exact followed
    have present := hasDirectory_iff.mp here
    have refused : disk.makeDirectory session.path = .refused := by
      rw [makeDirectory, located]
      dsimp only
      rw [present]
      rfl
    have directory : disk.isDirectory session.path = true := by
      rw [isDirectory, find?, located, Option.bind_some, present]
      rfl
    rw [refused]
    dsimp only
    rw [if_pos directory]

/-- What a start needs: the directory can be made, there is no directory in place of the lock
file, nobody holds the lock, and the snapshot is missing or can be read. -/
structure CanStart (session : EmbeddedSession) (place : Location) (disk : Disk) : Prop where
  uninitialized : session.state = .uninitialized
  sound : disk.Sound
  free : disk.lockCount place = 0
  reads : ∃ made store, disk.makeDirectories session.path = some made ∧
    Leads session.path place made ∧ made.hasDirectory (place ++ [lockFileName]) = false ∧
    session.stored made = .ok store

namespace CanStart

theorem starts (can : CanStart session place disk) : (session.startup disk).1 = .ok () := by
  obtain ⟨made, store, makes, leads, noDirectory, stored⟩ := can.reads
  have adds := addsDirectories_of_makeDirectories makes
  have free : made.lockCount place = 0 :=
    (adds.touches can.sound place []).lockCount.trans can.free
  obtain ⟨number, written, acquires, leaves⟩ :=
    exists_acquire (adds.sound can.sound) leads noDirectory free
  have leadsLocked : Leads session.path place (written.lock number) :=
    leads.of_keeps ⟨leaves.keeps.directories, leaves.keeps.workingDirectory⟩
  have reads := (stored_congr leads leadsLocked
    (leaves.others _ (snapshot_ne_lockFile place))).trans stored
  have allowed := SessionState.requireUninitialized_eq_ok_iff.mpr can.uninitialized
  rw [startup, allowed]
  dsimp only
  rw [makes]
  dsimp only
  rw [acquires]
  dsimp only
  rw [reads]

/-- Nothing comes in the way of a start if only the lock file changes. -/
theorem of_onlyLockFile (can : CanStart session place disk)
    (makes : disk.makeDirectories session.path = some made)
    (leaves : OnlyLockFile place made after) : CanStart session place after := by
  obtain ⟨other, store, same, leads, noDirectory, stored⟩ := can.reads
  obtain rfl : made = other := Option.some.inj (makes.symm.trans same)
  have adds := addsDirectories_of_makeDirectories makes
  have leadsAfter := leads.of_keeps leaves.keeps
  refine ⟨can.uninitialized, leaves.sound, ?_, after, store,
    makeDirectories_of_leads leadsAfter, leadsAfter, leaves.noDirectory noDirectory, ?_⟩
  · exact leaves.lockCount.trans ((adds.touches can.sound place []).lockCount.trans can.free)
  · exact (stored_congr leads leadsAfter
      (leaves.others _ (snapshot_ne_lockFile place))).trans stored

/-- Where a start would do without the operation that failed, another one does, of the same
session or of another one. -/
theorem again {fault : Option StartupFault} (can : CanStart other place disk)
    (samePath : other.path = session.path) (resolved : disk.resolve session.path = place)
    (made : ∀ reached, fault ≠ some (.makeDirectories reached))
    (tried : session.startupUnder fault disk = (.error failure, started, after)) :
    CanStart other place after := by
  obtain ⟨-, rfl | ⟨reached, same, -⟩ | ⟨between, makes, leaves⟩⟩ :=
    startupUnder_of_error can.sound resolved tried
  · exact can
  · exact absurd same (made reached)
  · exact can.of_onlyLockFile (samePath ▸ makes) leaves

end CanStart

/-! ## Ending -/

theorem leavesLocks_of_writeBeside {content : List UInt8} (sound : disk.Sound)
    (resolved : disk.resolve session.path = place)
    (written : disk.write (Path.withExtension session.snapshotPath "tmp") content = some after) :
    LeavesLocks place [temporaryFileName] disk after := by
  obtain ⟨location, number, found, puts, -⟩ := sound.putsFile_of_write written
  have beside : place ++ [temporaryFileName] = location := by
    have same := resolve_of_locate? (fileLocation?_eq_some_iff.mp found).1
    rwa [snapshotPath, withExtension_snapshotFileName, resolve_join isPlain_temporaryFileName,
      resolved] at same
  subst location
  refine ⟨Touches.of_files (puts.sound sound) puts.keeps puts.locked ?_ (by decide), puts.locked⟩
  intro asked untouched
  exact file?_congr (puts.at?_of_ne (untouched temporaryFileName List.mem_cons_self))

theorem failBeside_of_error {content : List UInt8} {late : Failure} (sound : disk.Sound)
    (resolved : disk.resolve session.path = place)
    (failed : Store.failBeside session.snapshotPath content late disk = (.error failure, after)) :
    LeavesLocks place [temporaryFileName] disk after := by
  unfold Store.failBeside at failed
  split at failed
  · cases failed
    exact .refl sound place _
  next written writes =>
    cases failed
    exact leavesLocks_of_writeBeside sound resolved writes

theorem saveUnder_of_error {fault : Option SaveFault} (sound : disk.Sound)
    (resolved : disk.resolve session.path = place)
    (saved : session.store.saveUnder fault session.snapshotPath disk = (.error failure, after)) :
    LeavesLocks place [temporaryFileName] disk after := by
  have untouched := LeavesLocks.refl sound place [temporaryFileName]
  unfold Store.saveUnder at saved
  dsimp only at saved
  split at saved
  · unfold Store.save at saved
    dsimp only at saved
    split at saved
    · cases saved
      exact untouched
    next written writes =>
      split at saved
      · cases saved
        exact leavesLocks_of_writeBeside sound resolved writes
      · cases saved
  · cases saved
    exact untouched
  · exact failBeside_of_error sound resolved saved
  · exact failBeside_of_error sound resolved saved
  · exact failBeside_of_error sound resolved saved

theorem shutdownUnder_of_error {fault : Option SaveFault} (sound : disk.Sound)
    (resolved : disk.resolve session.path = place)
    (ended : session.shutdownUnder fault disk = (.error failure, started, after)) :
    ∃ written, started = { session with state := .closed, lock := none } ∧
      after = session.release written ∧ LeavesLocks place [temporaryFileName] disk written := by
  unfold shutdownUnder at ended
  split at ended
  · cases ended
  · cases ended
  · dsimp only at ended
    rcases saved : session.store.saveUnder fault session.snapshotPath disk with ⟨outcome, written⟩
    rw [saved] at ended
    cases ended
    exact ⟨written, rfl, rfl, saveUnder_of_error sound resolved saved⟩

/-! ## Sessions as they come -/

/-- A session that has come from starts, batches and ends, whether they have failed or not. -/
inductive Opened : EmbeddedSession → Prop where
  | new (path : String) : Opened { path }
  | startup {session : EmbeddedSession} (fault : Option StartupFault) (disk : Disk) :
      Opened session → Opened (session.startupUnder fault disk).2.1
  | execute {session : EmbeddedSession} (batch : List Statement) :
      Opened session → Opened (session.execute batch).2
  | setAutoShutdown {session : EmbeddedSession} : Opened session → Opened session.setAutoShutdown
  | shutdown {session : EmbeddedSession} (fault : Option SaveFault) (disk : Disk) :
      Opened session → Opened (session.shutdownUnder fault disk).2.1

/-- Exactly the ready sessions hold a lock. -/
theorem Opened.isSome_lock_iff (opened : Opened session) :
    session.lock.isSome = true ↔ session.state = .ready := by
  induction opened with
  | new path => simp
  | @startup session fault disk _ induction =>
      unfold startupUnder
      split
      · exact induction
      · split
        · exact induction
        · split
          · exact induction
          · split
            · exact induction
            · simp
  | @execute session batch _ induction =>
      unfold EmbeddedSession.execute
      split
      · exact induction
      · split <;> exact induction
  | setAutoShutdown _ induction => exact induction
  | @shutdown session fault disk _ induction =>
      unfold shutdownUnder
      split
      next closed => exact induction
      next uninitialized => simpa [uninitialized] using induction
      next => simp

theorem file?_release (session : EmbeddedSession) (disk : Disk) (location : Location) :
    (session.release disk).file? location = disk.file? location := by
  unfold release
  split <;> rfl

/-- Whatever operation fails, a start that fails leaves the session and the snapshot as they
were and takes no lock, and an end that fails closes the session, gives up its lock and leaves
the snapshot as it was.  A session that was not ready then holds no lock, and one can start
wherever nothing is in its way. -/
theorem Opened.fails_cleanly (opened : Opened session) (sound : disk.Sound)
    (resolved : disk.resolve session.path = place) :
    (∀ fault failure started after,
      session.startupUnder fault disk = (.error failure, started, after) →
      started = session ∧ (session.state ≠ .ready → started.lock = none) ∧
      after.locked = disk.locked ∧ after.lockCount place = disk.lockCount place ∧
      after.snapshot? place = disk.snapshot? place ∧
      (∀ location, location ≠ place ++ [lockFileName] →
        after.file? location = disk.file? location) ∧
      ∀ other, other.path = session.path → CanStart other place disk →
        (∀ reached, fault ≠ some (.makeDirectories reached)) →
        (other.startup after).1 = .ok ()) ∧
    (∀ other later, CanStart other place later → (other.startup later).1 = .ok ()) ∧
    (session.state = .ready → ∀ fault failure ended after,
      session.shutdownUnder fault disk = (.error failure, ended, after) →
      ended = { session with state := .closed, lock := none } ∧
      (∃ number, session.lock = some number ∧ after.locked = disk.locked.erase number) ∧
      after.snapshot? place = disk.snapshot? place ∧
      ∀ location, location ≠ place ++ [temporaryFileName] →
        after.file? location = disk.file? location) := by
  refine ⟨?_, fun _ _ => CanStart.starts, ?_⟩
  · intro fault failure started after tried
    obtain ⟨rfl, -⟩ := startupUnder_of_error sound resolved tried
    have leaves := leavesLocks_of_startupUnder sound resolved tried
    refine ⟨rfl, ?_, leaves.locked, leaves.lockCount, leaves.snapshot?_eq (by decide), ?_, ?_⟩
    · intro notReady
      rw [← Option.not_isSome_iff_eq_none, opened.isSome_lock_iff]
      exact notReady
    · exact fun location elsewhere => leaves.files location (by simpa using elsewhere)
    · exact fun other samePath can made => (can.again samePath resolved made tried).starts
  · intro ready fault failure ended after fails
    obtain ⟨written, rfl, rfl, leaves⟩ := shutdownUnder_of_error sound resolved fails
    obtain ⟨number, held⟩ := Option.isSome_iff_exists.mp (opened.isSome_lock_iff.mpr ready)
    refine ⟨rfl, ⟨number, held, ?_⟩, ?_, ?_⟩
    · rw [release, held]
      exact congrArg (·.erase number) leaves.locked
    · rw [← leaves.snapshot?_eq (by decide), snapshot?, file?_release, snapshot?]
    · intro location elsewhere
      rw [file?_release]
      exact leaves.files location (by simpa using elsewhere)

private theorem eq_of_outcome {outcome : Except Failure Unit}
    {ended : Except Failure Unit × EmbeddedSession × Disk} (same : ended.1 = outcome) :
    ended = (outcome, ended.2.1, ended.2.2) := by
  rw [← same]

theorem keepsLock_of_startup (sound : disk.Sound) (resolved : disk.resolve session.path = place)
    (starts : session.startup disk = (.ok (), started, after)) : KeepsLock place disk after := by
  obtain ⟨-, -, number, store, written, -, rfl, touches, -, found, -⟩ :=
    startup_of_ok sound resolved starts
  exact touches.toKeepsLock.lock found

/-- The lock cannot be asked for at first, and the snapshot cannot be renamed at last. -/
theorem fails_cleanly_rename :
    let session : EmbeddedSession := { path := "." }
    let tried := session.startupUnder (some .tryLock) {}
    let ready := (session.startup {}).2.1
    let disk := (session.startup {}).2.2
    let ended := ready.shutdownUnder (some .rename) disk
    tried.1 = .error .file ∧ (session.startup tried.2.2).1 = .ok () ∧
    ready.state = .ready ∧ disk.locked = [0] ∧
    ended.1 = .error .file ∧ ended.2.1.state = .closed ∧ ended.2.2.locked = [] ∧
    ended.2.2.snapshot? [] = disk.snapshot? [] := by
  have first : (startupUnder (some .tryLock) { path := "." } {}).1 = .error .file := rfl
  have start : (startup { path := "." } {}).1 = .ok () := rfl
  have last : (shutdownUnder (some .rename) (startup { path := "." } {}).2.1
      (startup { path := "." } {}).2.2).1 = .error .file := rfl
  have ready : (startup { path := "." } {}).2.1.state = .ready := rfl
  have held : (startup { path := "." } {}).2.1.lock = some 0 := rfl
  have locked : (startup { path := "." } {}).2.2.locked = [0] := rfl
  have resolved : Disk.resolve {} "." = [] := by decide +kernel
  have leads : Leads "." [] {} := by
    have located : Disk.locate? {} (StoreLock.path ".") = some [lockFileName] := by decide +kernel
    exact located
  have reads : stored { path := "." } {} = .ok Store.empty := by
    have missing : Disk.has {} (Path.join "." snapshotFileName) = false := by decide +kernel
    exact if_neg (ne_true_of_eq_false missing)
  have sound := Disk.sound_empty
  have can : CanStart { path := "." } [] {} :=
    ⟨rfl, sound, rfl, {}, Store.empty, makeDirectories_of_leads leads, leads, rfl, reads⟩
  have new : Opened { path := "." } := .new "."
  have kept := keepsLock_of_startup sound resolved (eq_of_outcome start)
  have opened := new.startup none {}
  rw [startupUnder_none] at opened
  obtain ⟨starts, -, -⟩ := new.fails_cleanly sound resolved
  have asked : ∀ reached, some StartupFault.tryLock ≠ some (.makeDirectories reached) := by
    intro reached same
    cases same
  have again := (starts _ _ _ _ (eq_of_outcome first)).2.2.2.2.2.2 _ rfl can asked
  obtain ⟨-, -, ends⟩ := opened.fails_cleanly kept.sound ((kept.keeps.resolve ".").trans resolved)
  obtain ⟨closed, ⟨number, same, released⟩, unchanged, -⟩ :=
    ends ready _ _ _ _ (eq_of_outcome last)
  obtain rfl : 0 = number := Option.some.inj (held.symm.trans same)
  refine ⟨first, again, ready, locked, last, congrArg EmbeddedSession.state closed, ?_, unchanged⟩
  exact released.trans (by rw [locked]; rfl)

/-- A start of a ready session fails, and the session goes on holding the lock. -/
theorem keeps_lock_ready :
    let session : EmbeddedSession := { path := "store" }
    let first := session.startup {}
    let second := first.2.1.startup first.2.2
    let other := session.startup second.2.2
    first.1 = .ok () ∧ second.1 = .error (.lifecycle .startup .ready) ∧
    second.2.1.lock = some 0 ∧ other.1 = .error (.storeLocked "store") :=
  ⟨rfl, rfl, rfl, rfl⟩

end EmbeddedSession

end CodeGraph
