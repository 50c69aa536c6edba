import CodeGraph.Session.Embedded

/-!
# Sessions that share a disk

Several sessions may be open on one disk, also on one store directory.  Each is known by
a name, and what is done to one of them changes at most that session and the disk.
-/

namespace CodeGraph

inductive SessionAction where
  /-- Opens a session with the store in a directory, in place of one that is dropped. -/
  | opens (path : String)
  | startup
  | execute (batch : List Statement)
  | setAutoShutdown
  | shutdown
  | drop

/-- Sessions by name, and the disk that they share. -/
structure SharedSessions where
  disk : Disk
  sessions : List (String × EmbeddedSession) := []

namespace SharedSessions

def session? (shared : SharedSessions) (name : String) : Option EmbeddedSession :=
  shared.sessions.lookup name

def others (shared : SharedSessions) (name : String) : List (String × EmbeddedSession) :=
  shared.sessions.filter (·.1 ≠ name)

def put (shared : SharedSessions) (name : String) (session : EmbeddedSession)
    (disk : Disk) : SharedSessions :=
  { disk, sessions := (name, session) :: shared.others name }

/-- Drops the session with a name, if there is one. -/
def drop (shared : SharedSessions) (name : String) : SharedSessions :=
  match shared.session? name with
  | none => shared
  | some session =>
      { disk := session.drop shared.disk, sessions := shared.others name }

def opens (shared : SharedSessions) (name path : String) : SharedSessions :=
  let dropped := shared.drop name
  dropped.put name { path } dropped.disk

/-- Does something to the session with a name; without such a session only opening one
does anything. -/
def act (shared : SharedSessions) (name : String) (action : SessionAction) :
    Except Failure Unit × SharedSessions :=
  match action, shared.session? name with
  | .opens path, _ => (.ok (), shared.opens name path)
  | .drop, _ => (.ok (), shared.drop name)
  | _, none => (.ok (), shared)
  | .startup, some session =>
      let (outcome, session, disk) := session.startup shared.disk
      (outcome, shared.put name session disk)
  | .shutdown, some session =>
      let (outcome, session, disk) := session.shutdown shared.disk
      (outcome, shared.put name session disk)
  | .setAutoShutdown, some session =>
      (.ok (), shared.put name session.setAutoShutdown shared.disk)
  | .execute batch, some session =>
      let (outcome, session) := session.execute batch
      (outcome, shared.put name session shared.disk)

end SharedSessions

end CodeGraph
