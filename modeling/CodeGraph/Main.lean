import CodeGraph.CommandLine

/-!
# The program

Brings the files that a request may look at onto a disk, carries out the request there,
and writes what has changed back.  Everything is decided on the disk.
-/

namespace CodeGraph.Program

def locationOf (path : String) : Location := (Path.parts path).filter (· != ".")

def placeOf (disk : Disk) (path : String) : Location :=
  let full := CommandLine.fromWorkingDirectory disk path
  (locationOf full).foldl
    (fun place part => if part = ".." then place.dropLast else place ++ [part]) []

def bringDirectory (disk : Disk) (location : Location) : Disk :=
  (disk.makeDirectories (Disk.pathOf location)).getD disk

/-- Brings a file, with its content if it may be needed. -/
def bringFile (disk : Disk) (location : Location) (needed : Bool) : IO Disk := do
  let content ← if needed then IO.FS.readBinFile (Disk.pathOf location) else pure ⟨#[]⟩
  let around := bringDirectory disk location.dropLast
  return (around.write (Disk.pathOf location) content.toList).getD around

/-- May the content of a file decide which sources there are, or what is in them? -/
def isTelling (location : Location) : Bool :=
  let name := location.getLast?.getD ""
  isJavaSource name || [".ignore", ".gitignore", "exclude"].contains name

/-- Brings what is at a location, and all below it.  Links are left out. -/
partial def bringTree (needed : Location → Bool) (disk : Disk) (location : Location) :
    IO Disk := do
  let path ← IO.FS.realPath (Disk.pathOf location)
  match ← (path.symlinkMetadata).toBaseIO with
  | .error _ => return disk
  | .ok data =>
      match data.type with
      | .dir =>
          let mut reached := bringDirectory disk location
          for entry in ← path.readDir do
            let below ← (entry.path.symlinkMetadata).toBaseIO
            if let .ok found := below then
              if found.type != .symlink then
                reached ← bringTree needed reached (location ++ [entry.fileName])
          return reached
      | .file => bringFile disk location (needed location)
      | _ => return disk

/-- Brings what is at a location, if there is anything. -/
def bringIfThere (needed : Location → Bool) (disk : Disk) (location : Location) : IO Disk := do
  match ← (bringTree needed disk location).toBaseIO with
  | .ok reached => return reached
  | .error _ => return disk

def bringIgnoreFiles (disk : Disk) (location : Location) : IO Disk := do
  let mut reached := disk
  for directory in Ignore.directoriesAbove location do
    for name in [".ignore", ".gitignore", ".git"] do
      reached ← bringIfThere isTelling reached (directory ++ [name])
  return reached

def placesOf (request : CommandLine.Request) (disk : Disk) : Option String × Option String :=
  let base := settingsDirectory request.settingsPath
  match Settings.load disk request.settingsPath, request.command with
  | .error _, _ | .ok _, .check _ => (none, none)
  | .ok settings, .stats store =>
      (none, some ((CommandLine.withStore disk store settings).storeDirectory base))
  | .ok settings, .generate options =>
      let adjusted := CommandLine.Generation.adjust options disk settings
      (some options.root, if adjusted.useEmbedded then some (adjusted.storeDirectory base) else none)

def bring (request : CommandLine.Request) (disk : Disk) : IO Disk := do
  let everything := fun (_ : Location) => true
  let mut reached ← bringIfThere everything disk (placeOf disk request.settingsPath)
  let (root, store) := placesOf request reached
  if let some path := root then
    let place := placeOf disk path
    reached ← bringIgnoreFiles reached place
    reached ← bringIfThere isTelling reached place
  if let some path := store then
    for name in [snapshotFileName, lockFileName] do
      reached ← bringIfThere everything reached (placeOf disk path ++ [name])
  return reached

def writeBack (before after : Disk) : IO Unit := do
  for (location, entry) in after.entries.reverse do
    if before.at? location != some entry then
      match entry with
      | .directory => IO.FS.createDirAll (Disk.pathOf location)
      | .file _ content =>
          IO.FS.createDirAll (Disk.pathOf location.dropLast)
          IO.FS.writeBinFile (Disk.pathOf location) ⟨content.toArray⟩

def processNumber : IO Nat := do
  match ← (IO.FS.readFile "/proc/self/stat").toBaseIO with
  | .ok text => return (String.ofList (text.toList.takeWhile Char.isDigit)).toNat?.getD 0
  | .error _ => return 0

end CodeGraph.Program

open CodeGraph Program in
/-- Carries out what the arguments ask for, and ends with the exit code of the report. -/
def main (arguments : List String) : IO UInt32 := do
  let working := locationOf (← IO.currentDir).toString
  let empty : Disk := { workingDirectory := working, process := ← processNumber }
  let start := bringDirectory empty working
  let disk ← match CommandLine.Request.ofArguments? arguments with
    | some request => bring request start
    | none => pure start
  let (report, changed) := CommandLine.run arguments disk
  writeBack disk changed
  match report with
  | .done output => IO.print output
  | .failed reason => IO.eprintln ("Error: " ++ reason)
  | .misused => IO.eprintln "usage: depmap [-c FILE] [-v] (generate [ROOT] | check NAME... | stats)"
  return report.exitCode.toUInt32
