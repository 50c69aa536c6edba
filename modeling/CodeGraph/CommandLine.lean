import CodeGraph.CommandLine.Arguments
import CodeGraph.Generator
import CodeGraph.Json.Pretty
import CodeGraph.Settings.File

/-!
# The command line

A request checks names against the filter, generates a graph, or counts what a store
holds.  What it writes is a report; what it changes is the disk.
-/

namespace CodeGraph

inductive Report where
  | done (output : String)
  /-- The request cannot be carried out, for a reason in one line. -/
  | failed (reason : String)
  /-- The arguments make no request. -/
  | misused
deriving DecidableEq, Repr

def Report.exitCode : Report → Nat
  | done _ => 0
  | failed _ => 1
  | misused => 2

def RunStats.summary (stats : RunStats) : String :=
  let pair := fun (title : String) (first : Nat) (between : String) (second : Nat)
      (after : String) =>
    title ++ toString first ++ between ++ toString second ++ after ++ "\n"
  "✓ Graph generated\n" ++
    pair "  Files:      " stats.filesParsed " (" stats.filesFailed " failed)" ++
    pair "  Nodes:      " stats.nodesWritten " (" stats.nodesBlocked " blocked)" ++
    pair "  Edges:      " stats.edgesWritten " (" stats.edgesDropped " dropped)" ++
    pair "  Statements: " stats.statements " in " stats.batches " batches" ++
    (if 0 < stats.visitorFaults then
      "  Faults:     " ++ toString stats.visitorFaults ++ "\n"
    else "")

namespace CommandLine

/-- A path given as an argument, seen from the working directory. -/
def fromWorkingDirectory (disk : Disk) (path : String) : String :=
  Path.join (Disk.pathOf disk.workingDirectory) path

def withStore (disk : Disk) (store : Option String) (settings : Settings) : Settings :=
  match store with
  | some path =>
      { settings with useEmbedded := true, storePath := fromWorkingDirectory disk path }
  | none => settings

/-- The settings with what the arguments say otherwise.  Rules that are given replace
those of the settings and take part if there are any. -/
def Generation.adjust (options : Generation) (disk : Disk) (settings : Settings) :
    Settings :=
  let settings := if options.embedded then { settings with useEmbedded := true } else settings
  let settings := withStore disk options.store settings
  let settings :=
    match options.url with
    | some url => { settings with useEmbedded := false, rootUrl := url }
    | none => settings
  let settings :=
    match options.allow with
    | some rules => { settings with allowRules := splitItems rules, useAllowRules := none }
    | none => settings
  let settings :=
    match options.block with
    | some rules => { settings with blockRules := splitItems rules, useBlockRules := none }
    | none => settings
  let settings :=
    if options.preferAllow then { settings with preferAllow := true } else settings
  match options.preStatements with
  | some statements =>
      { settings with usePreStatements := true, preStatements := splitItems statements }
  | none => settings

/-- The line about a name: the decision in nine columns, and the name. -/
def checkLine (filter : Filter) (name : String) : String :=
  (if filter.admits name then "admitted  " else "blocked   ") ++ name ++ "\n"

def check (settings : Settings) (names : List String) : Except Failure String :=
  (Generator.ofSettings settings).map fun generator =>
    String.join (names.map (checkLine generator.filter))

def generate (settings : Settings) (base : String) (options : Generation) (disk : Disk) :
    Except Failure String × Disk :=
  match Generator.ofSettings (options.adjust disk settings) with
  | .error failure => (.error failure, disk)
  | .ok generator =>
      let (outcome, reached) :=
        { generator with storeBase := base }.generate (disk.canonical options.root) disk
      (outcome.map fun stats =>
          if options.json then stats.toJson.pretty ++ "\n" else stats.summary,
        reached)

def stats (settings : Settings) (base : String) (store : Option String) (disk : Disk) :
    Except Failure String :=
  let settings := withStore disk store { settings with useEmbedded := true }
  (settings.storeStats base disk).map fun found =>
    match found with
    | some stats => stats.toJson.pretty ++ "\n"
    | none => "no store at " ++ settings.storeDirectory base ++ "\n"

def reportOf : Except Failure String → Report
  | .ok output => .done output
  | .error failure => .failed failure.message

def carryOut (request : Request) (disk : Disk) : Report × Disk :=
  match Settings.load disk request.settingsPath with
  | .error _ => (.failed ("loading " ++ request.settingsPath), disk)
  | .ok settings =>
      let base := settingsDirectory request.settingsPath
      match request.command with
      | .check names => (reportOf (check settings names), disk)
      | .stats store => (reportOf (stats settings base store disk), disk)
      | .generate options =>
          let (outcome, reached) := generate settings base options disk
          (reportOf outcome, reached)

def run (arguments : List String) (disk : Disk) : Report × Disk :=
  match Request.ofArguments? arguments with
  | none => (.misused, disk)
  | some request => carryOut request disk

end CommandLine

end CodeGraph
