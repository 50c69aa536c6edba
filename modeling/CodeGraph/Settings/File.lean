import CodeGraph.Disk
import CodeGraph.Settings
import CodeGraph.Toml.Reader

/-!
# Settings files

A settings file is a document in TOML.  Each setting has a key in front of the first
header; a setting without a key keeps its default, and keys of no setting do not count.
A list of texts may also be written as one text with semicolons.
-/

namespace CodeGraph

namespace Settings

open Toml

/-- The value under the key of a setting.  A key may stand only once, and no header may
start with it. -/
def value? (document : Document) (key : String) : Option (Option Value) :=
  if document.sections.any fun item => item.header.head? == some key then none
  else
    match document.entries.filter (·.1 = key) with
    | [] => some none
    | [entry] => some (some entry.2)
    | _ => none

def decoded? {α : Type} (document : Document) (decode : Value → Option α) (key : String) :
    Option (Option α) := do
  match ← value? document key with
  | none => return none
  | some value => return some (← decode value)

def bool? : Value → Option Bool
  | .bool value => some value
  | _ => none

def text? : Value → Option String
  | .text value => some value
  | _ => none

/-- A number that is not negative. -/
def nat? : Value → Option Nat
  | .int value => if 0 ≤ value then some value.toNat else none
  | _ => none

/-- A list of texts, or one text with semicolons. -/
def items? : Value → Option (List String)
  | .text value => some (splitItems value)
  | .list values => (values.mapM text?).map trimItems
  | _ => none

def ofDocument? (document : Document) : Option Settings := do
  let default : Settings := {}
  return {
    useEmbedded := (← decoded? document bool? "use_embedded_backend").getD default.useEmbedded
    storePath := (← decoded? document text? "embedded_store_path").getD default.storePath
    rootUrl := (← decoded? document text? "networked_root_url").getD default.rootUrl
    preferAllow :=
      (← decoded? document bool? "prefer_allow_over_block").getD default.preferAllow
    useAllowRules := ← decoded? document bool? "use_allow_rules"
    allowRules := (← decoded? document items? "allow_rules").getD default.allowRules
    useBlockRules := ← decoded? document bool? "use_block_rules"
    blockRules := (← decoded? document items? "block_rules").getD default.blockRules
    usePreStatements :=
      (← decoded? document bool? "enable_pre_execution").getD default.usePreStatements
    preStatements :=
      (← decoded? document items? "pre_execution_statements").getD default.preStatements
    batchSize := (← decoded? document nat? "batch_size").getD default.batchSize
    timeoutSeconds := ← decoded? document nat? "request_timeout_secs"
    stopKinds := (← decoded? document items? "stop_kinds").getD default.stopKinds }

def ofText (text : String) : Except Failure Settings :=
  match (Document.ofText? text).bind ofDocument? with
  | none => .error .configText
  | some settings => settings.validate.map fun _ => settings

/-- The settings in a file, or the defaults if there is none. -/
def load (disk : Disk) (path : String) : Except Failure Settings :=
  if !disk.has path then .ok {}
  else
    match disk.readText? path with
    | none => .error .file
    | some text => ofText text

end Settings

end CodeGraph
