import CodeGraph.Session.Remote

/-!
# Sessions

A session is with a store on the disk or with a graph server, and is used in the same
way in both cases: it is started once, runs batches while it is ready, and is ended.
-/

namespace CodeGraph

inductive Session where
  | embedded (session : EmbeddedSession)
  | remote (session : RemoteSession)

namespace Session

def backendName : Session → String
  | embedded _ => "embedded"
  | remote _ => "rest"

def state : Session → SessionState
  | embedded session => session.state
  | remote session => session.state

def startup (session : Session) (disk : Disk) : Except Failure Unit × Session × Disk :=
  match session with
  | embedded session =>
      let (outcome, started, disk) := session.startup disk
      (outcome, embedded started, disk)
  | remote session =>
      let (outcome, started) := session.startup
      (outcome, remote started, disk)

def shutdown (session : Session) (disk : Disk) : Except Failure Unit × Session × Disk :=
  match session with
  | embedded session =>
      let (outcome, ended, disk) := session.shutdown disk
      (outcome, embedded ended, disk)
  | remote session => (.ok (), remote session.shutdown, disk)

def setAutoShutdown : Session → Session
  | embedded session => embedded session.setAutoShutdown
  | remote session => remote session

/-- The disk after a session has been dropped. -/
def drop (session : Session) (disk : Disk) : Disk :=
  match session with
  | embedded session => session.drop disk
  | remote _ => disk

def execute (batch : List Statement) (session : Session) : Except Failure Unit × Session :=
  match session with
  | embedded session =>
      let (outcome, session) := session.execute batch
      (outcome, embedded session)
  | remote session => (session.execute batch, remote session)

def accessor : Accessor Session := ⟨execute⟩

end Session

end CodeGraph
