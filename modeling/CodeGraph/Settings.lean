import CodeGraph.Disk.Path
import CodeGraph.Filter
import CodeGraph.KindSet
import CodeGraph.Text.Blank

/-!
# Settings

What a run may be told: where the graph is kept, which names are admitted, what runs
before the first fact, how large a batch is, and which syntax is left out.
-/

namespace CodeGraph

structure Settings where
  /-- Is the graph kept in a store on the disk, and not by a server? -/
  useEmbedded : Bool := false
  storePath : String := ".depmap/graph.db"
  rootUrl : String := "http://localhost:7474/db/data"
  preferAllow : Bool := false
  useAllowRules : Option Bool := none
  allowRules : List String := []
  useBlockRules : Option Bool := none
  blockRules : List String := []
  usePreStatements : Bool := false
  preStatements : List String := []
  batchSize : Nat := 500
  timeoutSeconds : Option Nat := none
  stopKinds : List String := []
deriving DecidableEq, Repr, Inhabited

/-- The items of a text with semicolons between them, trimmed; empty ones are left out. -/
def splitItems (text : String) : List String :=
  let pieces := Text.splitChars (· == ';') text.toList
  ((pieces.map Text.trimChars).filter (!·.isEmpty)).map String.ofList

/-- The items trimmed; empty ones are left out. -/
def trimItems (items : List String) : List String :=
  (items.map Text.trim).filter (!·.isEmpty)

namespace Settings

/-- Do allow rules take part?  Unless it is said, they do if there are any. -/
def allowEnabled (settings : Settings) : Bool :=
  settings.useAllowRules.getD (!settings.allowRules.isEmpty)

/-- Do block rules take part?  Unless it is said, they do if there are any. -/
def blockEnabled (settings : Settings) : Bool :=
  settings.useBlockRules.getD (!settings.blockRules.isEmpty)

/-- The filter, and why rules that are malformed have been left out of it. -/
def filter (settings : Settings) : Filter × List Failure :=
  Filter.ofTexts settings.preferAllow
    (if settings.allowEnabled then some settings.allowRules else none)
    (if settings.blockEnabled then some settings.blockRules else none)

/-- The statements that run before the first fact. -/
def firstStatements (settings : Settings) : List String :=
  if settings.usePreStatements then settings.preStatements else []

/-- The kinds with the given names, unless a name is unknown. -/
def kindsOf : List String → Except Failure (List Kind)
  | [] => .ok []
  | name :: names =>
      match Kind.ofName? name with
      | none => .error (.config (.unknownKind name))
      | some kind => (kindsOf names).map (kind :: ·)

def stopSet (settings : Settings) : Except Failure KindSet :=
  (kindsOf settings.stopKinds).map KindSet.ofList

/-- Fails unless the settings say where the graph is kept and name kinds that exist. -/
def validate (settings : Settings) : Except Failure Unit :=
  if !settings.useEmbedded && (Text.trim settings.rootUrl).isEmpty then
    .error (.config .missingRootUrl)
  else if settings.useEmbedded && settings.storePath.isEmpty then
    .error (.config .missingStorePath)
  else settings.stopSet.map fun _ => ()

/-- The store directory, seen from the directory `base`. -/
def storeDirectory (settings : Settings) (base : String) : String :=
  Path.join base settings.storePath

end Settings

/-- The directory of a settings file: relative store paths start there. -/
def settingsDirectory (path : String) : String :=
  match Path.parent? path with
  | some directory => if directory.isEmpty then "." else directory
  | none => "."

end CodeGraph
