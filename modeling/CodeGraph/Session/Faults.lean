import CodeGraph.Session.Embedded

/-!
# Sessions whose file operations fail

Any file operation may fail though nothing on the disk is in its way, when it has done a part of
its work.  With an operation that fails, a session starts or ends as it does without, up to that
operation.  A file is created and renamed as a whole or not at all, and closing the lock file
gives up the lock, even if it could not be unlocked before.
-/

namespace CodeGraph

/-- The operation of a start that fails. -/
inductive StartupFault where
  /-- Only the directories on the way to another one are made. -/
  | makeDirectories (reached : String)
  | openLock
  | tryLock
  | truncateLock
  /-- Only some bytes of the owner are written. -/
  | writeOwner (written : Nat)
  /-- A snapshot that cannot be looked at counts as missing. -/
  | examineSnapshot
  | openSnapshot
  /-- Only some bytes of the snapshot can be read. -/
  | readSnapshot (read : Nat)
deriving DecidableEq, Repr

/-- The operation of an end that fails. -/
inductive SaveFault where
  | create
  /-- Only some bytes are written, before all of them have been encoded. -/
  | encode (written : Nat)
  /-- Only some bytes are written, when all of them have been encoded. -/
  | flush (written : Nat)
  | rename
deriving DecidableEq, Repr

def Disk.makeDirectoriesUnder (fault : Option StartupFault) (disk : Disk) (path : String) :
    Except Failure Unit × Disk :=
  match fault with
  | some (.makeDirectories reached) => (.error .file, (disk.makeDirectories reached).getD disk)
  | _ =>
      match disk.makeDirectories path with
      | none => (.error .file, disk)
      | some made => (.ok (), made)

/-- Takes the lock of a store directory.  A lock that was taken before the failure is given up
when the file is closed. -/
def StoreLock.acquireUnder (fault : Option StartupFault) (directory : String) (disk : Disk) :
    Except Failure Nat × Disk :=
  if fault = some .openLock then (.error .file, disk)
  else
    match openFile directory disk with
    | none => (.error .file, disk)
    | some (number, opened) =>
        if fault = some .tryLock then (.error .file, opened)
        else if opened.isLocked number then (.error (.storeLocked directory), opened)
        else
          match fault with
          | some .truncateLock => (.error .file, (opened.lock number).unlock number)
          | some (.writeOwner count) =>
              match opened.write (path directory) ((owner opened).take count) with
              | none => (.error .file, opened)
              | some written => (.error .file, (written.lock number).unlock number)
          | _ =>
              match opened.write (path directory) (owner opened) with
              | none => (.error .file, opened)
              | some written => (.ok number, written.lock number)

/-- Fails when some content has been written to the file beside a snapshot. -/
def Store.failBeside (path : String) (content : List UInt8) (failure : Failure) (disk : Disk) :
    Except Failure Unit × Disk :=
  match disk.write (Path.withExtension path "tmp") content with
  | none => (.error .file, disk)
  | some written => (.error failure, written)

def Store.saveUnder (fault : Option SaveFault) (store : Store) (path : String) (disk : Disk) :
    Except Failure Unit × Disk :=
  let bytes := Snapshot.save store
  match fault with
  | none => store.save path disk
  | some .create => (.error .file, disk)
  | some (.encode count) => failBeside path (bytes.take count) .snapshot disk
  | some (.flush count) => failBeside path (bytes.take count) .file disk
  | some .rename => failBeside path bytes .file disk

namespace EmbeddedSession

def storedUnder (fault : Option StartupFault) (session : EmbeddedSession) (disk : Disk) :
    Except Failure Store :=
  match fault with
  | some .examineSnapshot => .ok Store.empty
  | some .openSnapshot =>
      if disk.has session.snapshotPath then .error .file else .ok Store.empty
  | some (.readSnapshot count) =>
      match disk.read? session.snapshotPath with
      | some content => Snapshot.load session.snapshotPath (content.take count)
      | none => session.stored disk
  | _ => session.stored disk

def startupUnder (fault : Option StartupFault) (session : EmbeddedSession) (disk : Disk) :
    Except Failure Unit × EmbeddedSession × Disk :=
  match session.state.requireUninitialized with
  | .error failure => (.error failure, session, disk)
  | .ok () =>
      match disk.makeDirectoriesUnder fault session.path with
      | (.error failure, made) => (.error failure, session, made)
      | (.ok (), made) =>
          match StoreLock.acquireUnder fault session.path made with
          | (.error failure, tried) => (.error failure, session, tried)
          | (.ok number, locked) =>
              match session.storedUnder fault locked with
              | .error failure => (.error failure, session, locked.unlock number)
              | .ok store =>
                  (.ok (), { session with state := .ready, store, lock := some number },
                    locked)

def shutdownUnder (fault : Option SaveFault) (session : EmbeddedSession) (disk : Disk) :
    Except Failure Unit × EmbeddedSession × Disk :=
  match session.state with
  | .closed => (.ok (), session, disk)
  | .uninitialized => (.ok (), { session with state := .closed }, disk)
  | .ready =>
      let (saved, written) := session.store.saveUnder fault session.snapshotPath disk
      (saved, { session with state := .closed, lock := none }, session.release written)

end EmbeddedSession

end CodeGraph
