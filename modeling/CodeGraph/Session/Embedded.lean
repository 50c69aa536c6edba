import CodeGraph.Statement.Run
import CodeGraph.Store.File

/-!
# Sessions with a store on a disk

A store directory holds a snapshot and a lock file.  A session takes the lock and reads
the snapshot when it starts, changes the store in memory, and writes the snapshot and
gives up the lock when it ends.  A batch of statements is run as a whole or not at all.
-/

namespace CodeGraph

def lockFileName : String := "depmap.lock"

def snapshotFileName : String := "graph.bin"

/-- Fails unless the state is ready. -/
def SessionState.requireReady (state : SessionState) (operation : SessionOperation) :
    Except Failure Unit :=
  if state = .ready then .ok () else .error (.lifecycle operation state)

/-- Fails unless the state allows a start. -/
def SessionState.requireUninitialized (state : SessionState) : Except Failure Unit :=
  if state = .uninitialized then .ok () else .error (.lifecycle .startup state)

namespace StoreLock

def path (directory : String) : String := Path.join directory lockFileName

/-- The number of the lock file, which is created if it is missing. -/
def openFile (directory : String) (disk : Disk) : Option (Nat × Disk) :=
  match disk.fileNumber? (path directory) with
  | some number => some (number, disk)
  | none =>
      match disk.write (path directory) [] with
      | some written => (written.fileNumber? (path directory)).map (·, written)
      | none => none

def owner (disk : Disk) : List UInt8 := (toString disk.process ++ "\n").toUTF8.toList

/-- Takes the lock of a store directory; the answer is the number of the lock file. -/
def acquire (directory : String) (disk : Disk) : Except Failure Nat × Disk :=
  match openFile directory disk with
  | none => (.error .file, disk)
  | some (number, opened) =>
      if opened.isLocked number then (.error (.storeLocked directory), opened)
      else
        match opened.write (path directory) (owner opened) with
        | none => (.error .file, opened)
        | some written => (.ok number, written.lock number)

end StoreLock

structure EmbeddedSession where
  path : String
  state : SessionState := .uninitialized
  store : Store := Store.empty
  /-- The number of the lock file, while the lock is held. -/
  lock : Option Nat := none
  autoShutdown : Bool := false

namespace EmbeddedSession

def snapshotPath (session : EmbeddedSession) : String :=
  Path.join session.path snapshotFileName

/-- The store that the snapshot holds, or an empty one if there is no snapshot. -/
def stored (session : EmbeddedSession) (disk : Disk) : Except Failure Store :=
  if disk.has session.snapshotPath then Store.load disk session.snapshotPath
  else .ok Store.empty

def startup (session : EmbeddedSession) (disk : Disk) :
    Except Failure Unit × EmbeddedSession × Disk :=
  match session.state.requireUninitialized with
  | .error failure => (.error failure, session, disk)
  | .ok () =>
      match disk.makeDirectories session.path with
      | none => (.error .file, session, disk)
      | some made =>
          match StoreLock.acquire session.path made with
          | (.error failure, tried) => (.error failure, session, tried)
          | (.ok number, locked) =>
              match session.stored locked with
              | .error failure => (.error failure, session, locked.unlock number)
              | .ok store =>
                  (.ok (), { session with state := .ready, store, lock := some number },
                    locked)

/-- The disk without the lock of a session. -/
def release (session : EmbeddedSession) (disk : Disk) : Disk :=
  match session.lock with
  | some number => disk.unlock number
  | none => disk

/-- Ends a session.  The lock is given up also when the snapshot cannot be written. -/
def shutdown (session : EmbeddedSession) (disk : Disk) :
    Except Failure Unit × EmbeddedSession × Disk :=
  match session.state with
  | .closed => (.ok (), session, disk)
  | .uninitialized => (.ok (), { session with state := .closed }, disk)
  | .ready =>
      let (saved, written) := session.store.save session.snapshotPath disk
      (saved, { session with state := .closed, lock := none }, session.release written)

def setAutoShutdown (session : EmbeddedSession) : EmbeddedSession :=
  { session with autoShutdown := true }

/-- The disk after a session has been dropped. -/
def drop (session : EmbeddedSession) (disk : Disk) : Disk :=
  if session.autoShutdown && session.state = .ready then (session.shutdown disk).2.2
  else session.release disk

/-- Runs statements in turn up to the first that fails. -/
def runAll : List BoundStatement → Store → Except Failure Unit × Store
  | [], store => (.ok (), store)
  | statement :: statements, store =>
      match statement.run store with
      | (.error failure, reached) => (.error failure, reached)
      | (.ok _, reached) => runAll statements reached

/-- Runs a batch on a store.  A batch with a statement that may fail runs on a copy,
which takes the place of the store if none fails. -/
def runBatch (statements : List BoundStatement) (store : Store) :
    Except Failure Unit × Store :=
  let (outcome, reached) := runAll statements store
  if statements.any (·.isFallible) then
    match outcome with
    | .ok () => (.ok (), reached)
    | .error failure => (.error failure, store)
  else (outcome, reached)

def execute (session : EmbeddedSession) (batch : List Statement) :
    Except Failure Unit × EmbeddedSession :=
  match session.state.requireReady .execute with
  | .error failure => (.error failure, session)
  | .ok () =>
      match batch.mapM Statement.prepare with
      | .error failure => (.error failure, session)
      | .ok statements =>
          let (outcome, store) := runBatch statements session.store
          (outcome, { session with store })

end EmbeddedSession

/-- The counts of the store in a directory, if there is a snapshot of it. -/
def storedStats (directory : String) (disk : Disk) : Except Failure (Option Store.Stats) :=
  let path := Path.join directory snapshotFileName
  if disk.isFile path then (Store.load disk path).map fun store => some store.stats
  else .ok none

end CodeGraph
