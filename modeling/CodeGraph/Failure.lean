import CodeGraph.Kind
import CodeGraph.Statement.Lexer
import CodeGraph.Statement.Reader

/-!
# Failures

Everything that can go wrong, by cause.  Each failure has a class and a message; the
failures of a single syntax node or a single rule do not stop a run, all others do.
-/

namespace CodeGraph

inductive SessionState where
  | uninitialized
  | ready
  | closed
deriving DecidableEq, Repr, Inhabited

def SessionState.name : SessionState → String
  | uninitialized => "uninitialized"
  | ready => "ready"
  | closed => "closed"

inductive SessionOperation where
  | startup
  | execute
deriving DecidableEq, Repr

def SessionOperation.name : SessionOperation → String
  | startup => "startup"
  | execute => "execute"

/-- Why a statement is not supported. -/
inductive StatementFault where
  | lexical (fault : LexFault)
  | empty
  | grammar (fault : ReadFault)
  | unboundVariable (name : String)
  | alreadyBound (name : String)
  | namesRelationship (name : String)
  | missingLabel
  | notAValue (parameter : String)
  | mapParameterNeeded
  | notAMap (parameter : String)
  | nestedMap (parameter key : String)
  | notASingleNode (name : String)
  /-- A node with relationships was to be deleted without them. -/
  | stillConnected (label : String) (degree : Nat)
deriving Repr

/-- What is said about a statement that is not supported. -/
def StatementFault.message (text : String) : StatementFault → String
  | lexical fault => fault.message text.toList
  | empty => "empty statement"
  | grammar fault => fault.message
  | unboundVariable name => "unbound variable " ++ name
  | alreadyBound name => "variable " ++ name ++ " is already bound"
  | namesRelationship name => "variable " ++ name ++ " names a relationship"
  | missingLabel => "node pattern needs a label or a bound variable"
  | notAValue parameter => "$" ++ parameter ++ " is not a property value"
  | mapParameterNeeded => "SET += needs a map parameter"
  | notAMap parameter => "$" ++ parameter ++ " is not a map"
  | nestedMap parameter key => "nested map in $" ++ parameter ++ "." ++ key
  | notASingleNode name => "variable " ++ name ++ " does not name a single node"
  | stillConnected label degree =>
      "node " ++ label ++ " still has " ++ toString degree ++
        " relationships, use DETACH DELETE"

inductive ConfigFault where
  | missingRootUrl
  | missingStorePath
  | unknownKind (name : String)
  /-- A relationship of a snapshot leads to a node that is not there. -/
  | corruptSnapshot (path : String)
  | statisticsNeedStore
deriving DecidableEq, Repr

def ConfigFault.message : ConfigFault → String
  | missingRootUrl => "networked_root_url must be set when the embedded backend is off"
  | missingStorePath => "embedded_store_path must be set when the embedded backend is on"
  | unknownKind name => Kind.unknownMessage name
  | corruptSnapshot path =>
      "corrupt snapshot " ++ path ++ ": edge references missing node"
  | statisticsNeedStore => "store statistics need the embedded backend"

inductive Failure where
  | visitor (kind : Kind) (message : String)
  | invalidRule (rule : String)
  | preExecution (statement : String) (cause : Failure)
  | backend (status : Nat) (detail : String)
  /-- The graph server could not be asked. -/
  | transport
  | unsupportedStatement (statement : String) (fault : StatementFault)
  | missingParameter (name : String)
  | lifecycle (operation : SessionOperation) (state : SessionState)
  | storeLocked (directory : String)
  | config (fault : ConfigFault)
  | configText
  | parse (path message : String)
  | file
  | snapshot
deriving Repr

inductive FailureClass where
  | visitor
  | filterConfig
  | preExecution
  | backend
  | lifecycle
  | config
  | io
deriving DecidableEq, Repr

def FailureClass.name : FailureClass → String
  | visitor => "visitor"
  | filterConfig => "filter_config"
  | preExecution => "pre_execution"
  | backend => "backend"
  | lifecycle => "lifecycle"
  | config => "config"
  | io => "io"

namespace Failure

def failureClass : Failure → FailureClass
  | visitor .. => .visitor
  | invalidRule .. => .filterConfig
  | preExecution .. => .preExecution
  | backend .. | transport | unsupportedStatement .. | missingParameter .. => .backend
  | lifecycle .. | storeLocked .. => .lifecycle
  | config .. | configText => .config
  | parse .. | file | snapshot => .io

def isFatal (failure : Failure) : Bool :=
  failure.failureClass ≠ .visitor && failure.failureClass ≠ .filterConfig

def message : Failure → String
  | visitor kind message => "visitor for " ++ kind.name ++ " failed: " ++ message
  | invalidRule rule => "invalid rule \"" ++ rule ++ "\": "
  | preExecution statement cause =>
      "pre-execution statement \"" ++ statement ++ "\" failed: " ++ cause.message
  | backend status detail => "error.response: " ++ toString status ++ " " ++ detail
  | transport => "transport error: "
  | unsupportedStatement statement fault =>
      "unsupported statement \"" ++ statement ++ "\": " ++ fault.message statement
  | missingParameter name => "missing statement parameter $" ++ name
  | lifecycle operation state =>
      "cannot " ++ operation.name ++ " while accessor is " ++ state.name
  | storeLocked directory => "graph store is locked: " ++ directory
  | config fault => "config error: " ++ fault.message
  | configText => "config parse error: "
  | parse path message => "failed to parse " ++ path ++ ": " ++ message
  | file => "I/O error: "
  | snapshot => "snapshot error: "

end Failure

end CodeGraph
