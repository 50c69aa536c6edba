import CodeGraph.Loader
import CodeGraph.Session
import CodeGraph.Settings
import CodeGraph.Sources
import CodeGraph.Visitor.Extraction

/-!
# Generating graphs

A generator turns outlines of sources into a graph: it extracts the facts of one outline
after another and loads them.  What the settings say has been worked out before the
first outline, so that a run does not depend on anything but its sources and the graph.
-/

namespace CodeGraph

/-- The session that settings ask for; a relative store path starts at `base`. -/
def Settings.session (settings : Settings) (base : String) : Session :=
  if settings.useEmbedded then .embedded { path := settings.storeDirectory base }
  else .remote (RemoteSession.ofRoot settings.rootUrl)

structure Generator where
  settings : Settings
  filter : Filter
  stopped : KindSet
  rejected : List Failure
  registry : Registry := Registry.standard
  storeBase : String := "."

namespace Generator

/-- The generator for settings, unless they are not valid. -/
def ofSettings (settings : Settings) : Except Failure Generator :=
  match settings.validate with
  | .error failure => .error failure
  | .ok () =>
      let (filter, rejected) := settings.filter
      settings.stopSet.map fun stopped => { settings, filter, stopped, rejected }

def extract (generator : Generator) (unit : Node) : Extraction :=
  ({} : Extraction).add generator.registry generator.stopped unit

/-- The facts of outlines, in order. -/
def facts (generator : Generator) (units : List Node) : List Fact :=
  units.flatMap fun unit => (generator.extract unit).facts.toList

def faults (generator : Generator) (units : List Node) : Nat :=
  units.foldl (fun faults unit => faults + (generator.extract unit).counts.faults) 0

variable {σ : Type}

def run (generator : Generator) (accessor : Accessor σ) (units : List Node) (state : σ) :
    Except Failure RunStats × σ :=
  let (outcome, reached) :=
    Loader.load accessor generator.filter generator.settings.batchSize
      generator.settings.firstStatements (generator.facts units) state
  (outcome.map fun stats => { stats with visitorFaults := generator.faults units }, reached)

/-- Loads the facts of the sources under a root through an accessor in a given state. -/
def runSources (generator : Generator) (accessor : Accessor σ) (disk : Disk)
    (root : String) (state : σ) : Except Failure RunStats × σ :=
  let (units, failed) := Sources.outlines disk (Sources.collect disk root)
  let (outcome, reached) := generator.run accessor units state
  (outcome.map fun stats =>
      { stats with filesParsed := units.length, filesFailed := failed },
    reached)

/-- Generates the graph of the sources under a root in a session of its own.  The session
is ended also when the run fails; the failure of the run is told before one of the
end. -/
def generate (generator : Generator) (root : String) (disk : Disk) :
    Except Failure RunStats × Disk :=
  let session := (generator.settings.session generator.storeBase).setAutoShutdown
  match session.startup disk with
  | (.error failure, session, disk) => (.error failure, session.drop disk)
  | (.ok (), session, disk) =>
      let (outcome, session) := generator.runSources Session.accessor disk root session
      let (ended, session, disk) := session.shutdown disk
      let disk := session.drop disk
      match outcome, ended with
      | .error failure, _ => (.error failure, disk)
      | .ok _, .error failure => (.error failure, disk)
      | .ok stats, .ok () => (.ok stats, disk)

end Generator

/-- The counts of the store that settings name, if there is a snapshot of it. -/
def Settings.storeStats (settings : Settings) (base : String) (disk : Disk) :
    Except Failure (Option Store.Stats) :=
  if settings.useEmbedded then storedStats (settings.storeDirectory base) disk
  else .error (.config .statisticsNeedStore)

end CodeGraph
