import CodeGraph.Accessor
import CodeGraph.Session.Embedded
import CodeGraph.Text.Blank

/-!
# Sessions with a graph server

A server takes each batch of statements at its commit address.  Without a network, no
statement reaches a server.
-/

namespace CodeGraph

structure RemoteSession where
  commitUrl : String
  state : SessionState := .uninitialized
deriving DecidableEq, Repr

namespace RemoteSession

/-- A session with the server at a root address; slashes at its end do not count. -/
def ofRoot (root : String) : RemoteSession :=
  let trimmed := String.ofList (Text.dropEndWhile (· == '/') root.toList)
  { commitUrl := trimmed ++ "/transaction/commit" }

def startup (session : RemoteSession) : Except Failure Unit × RemoteSession :=
  match session.state.requireUninitialized with
  | .error failure => (.error failure, session)
  | .ok () => (.ok (), { session with state := .ready })

/-- Ends a session, also one that has not been started. -/
def shutdown (session : RemoteSession) : RemoteSession := { session with state := .closed }

/-- Runs a batch of statements; an empty one need not be sent. -/
def execute (session : RemoteSession) (batch : List Statement) : Except Failure Unit :=
  match session.state.requireReady .execute with
  | .error failure => .error failure
  | .ok () => if batch.isEmpty then .ok () else .error .transport

end RemoteSession

end CodeGraph
