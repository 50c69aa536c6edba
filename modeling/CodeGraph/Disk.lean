import CodeGraph.Disk.Path

/-!
# Disks

A disk holds directories and files under absolute locations.  A file keeps its number
when it is overwritten or renamed, and a lock is held on the number: it stays with the
file wherever the file goes, also when it is removed.  There are no links.
-/

namespace CodeGraph

/-- The way from the root of a disk, name by name. -/
abbrev Location := List String

inductive DiskEntry where
  | directory
  | file (number : Nat) (content : List UInt8)
deriving DecidableEq, Repr

/-- A disk, as a process sees it. -/
structure Disk where
  entries : List (Location × DiskEntry) := []
  workingDirectory : Location := []
  nextFile : Nat := 0
  locked : List Nat := []
  process : Nat := 1
deriving Repr

namespace Disk

instance : Inhabited Disk := ⟨{}⟩

/-! ## Looking -/

/-- What is at a location; at the root there is a directory. -/
def at? (disk : Disk) (location : Location) : Option DiskEntry :=
  if location.isEmpty then some .directory else disk.entries.lookup location

def hasDirectory (disk : Disk) (location : Location) : Bool :=
  disk.at? location == some .directory

/-- Goes a step; every step starts from a directory. -/
def step (disk : Disk) (location : Location) (part : String) : Option Location :=
  if !disk.hasDirectory location then none
  else if part = "." then some location
  else if part = ".." then some location.dropLast
  else some (location ++ [part])

/-- The location that a path leads to, whether there is anything or not. -/
def locate? (disk : Disk) (path : String) : Option Location :=
  if path.isEmpty then none
  else
    let start := if Path.isAbsolute path then [] else disk.workingDirectory
    (Path.parts path).foldlM disk.step start

def asksDirectory (path : String) : Bool :=
  let reversed := path.toList.reverse
  "/".toList.isPrefixOf reversed || "./".toList.isPrefixOf reversed

def find? (disk : Disk) (path : String) : Option DiskEntry :=
  match (disk.locate? path).bind disk.at? with
  | some (.file number content) =>
      if asksDirectory path then none else some (.file number content)
  | found => found

def has (disk : Disk) (path : String) : Bool := (disk.find? path).isSome

def isDirectory (disk : Disk) (path : String) : Bool := disk.find? path == some .directory

def isFile (disk : Disk) (path : String) : Bool :=
  match disk.find? path with
  | some (.file ..) => true
  | _ => false

def read? (disk : Disk) (path : String) : Option (List UInt8) :=
  match disk.find? path with
  | some (.file _ content) => some content
  | _ => none

/-- The text of the file at a path, unless it is not in UTF-8. -/
def readText? (disk : Disk) (path : String) : Option String :=
  (disk.read? path).bind fun content => String.fromUTF8? ⟨content.toArray⟩

def pathOf (location : Location) : String := "/" ++ "/".intercalate location

/-- The absolute path without dots of what a path leads to, or the path itself if it
leads to nothing. -/
def canonical (disk : Disk) (path : String) : String :=
  match disk.locate? path with
  | some location => if disk.has path then pathOf location else path
  | none => path

def list (disk : Disk) (location : Location) : List (String × DiskEntry) :=
  disk.entries.filterMap fun entry =>
    match entry.1.getLast? with
    | some name => if entry.1.dropLast = location then some (name, entry.2) else none
    | none => none

/-- The locations of all files. -/
def files (disk : Disk) : List Location :=
  disk.entries.filterMap fun entry =>
    match entry.2 with
    | .file .. => some entry.1
    | .directory => none

/-! ## Changing -/

/-- Puts an entry at a location, in place of what was there. -/
def put (disk : Disk) (location : Location) (entry : DiskEntry) : Disk :=
  { disk with
    entries := (location, entry) :: disk.entries.filter (·.1 ≠ location) }

/-- Removes what is at a location, and all below it. -/
def remove (disk : Disk) (location : Location) : Disk :=
  { disk with
    entries := disk.entries.filter fun entry => !location.isPrefixOf entry.1 }

inductive Made where
  | made (disk : Disk)
  /-- The directory that it would be in is missing. -/
  | missing
  | refused

def makeDirectory (disk : Disk) (path : String) : Made :=
  match disk.locate? path with
  | none =>
      -- a part of the way is a file, or is missing
      match (Path.parent? path).bind disk.find? with
      | some (.file ..) => .refused
      | _ => .missing
  | some location =>
      if (disk.at? location).isSome then .refused
      else
        match disk.at? location.dropLast with
        | some .directory => .made (disk.put location .directory)
        | some (.file ..) => .refused
        | none => .missing

/-- Makes a directory and those on the way to it that are missing, trying the way at
most `fuel` parts back. -/
def makeWay (disk : Disk) : Nat → String → Option Disk
  | 0, _ => none
  | fuel + 1, path =>
      if path.isEmpty then some disk
      else
        match disk.makeDirectory path with
        | .made disk => some disk
        | .refused => if disk.isDirectory path then some disk else none
        | .missing =>
            match Path.parent? path with
            | none => none
            | some parent =>
                match makeWay disk fuel parent with
                | none => none
                | some disk =>
                    match disk.makeDirectory path with
                    | .made disk => some disk
                    | _ => if disk.isDirectory path then some disk else none

/-- Makes a directory and those on the way to it that are missing. -/
def makeDirectories (disk : Disk) (path : String) : Option Disk :=
  disk.makeWay ((Path.parts path).length + 2) path

/-- The location for a file at a path: it must not hold a directory, and must be in
one. -/
def fileLocation? (disk : Disk) (path : String) : Option Location :=
  match disk.locate? path with
  | none => none
  | some location =>
      if asksDirectory path || disk.hasDirectory location then none
      else if disk.hasDirectory location.dropLast then some location
      else none

def write (disk : Disk) (path : String) (content : List UInt8) : Option Disk :=
  match disk.fileLocation? path with
  | none => none
  | some location =>
      match disk.at? location with
      | some (.file number _) => some (disk.put location (.file number content))
      | _ =>
          let number := disk.nextFile
          some { disk.put location (.file number content) with nextFile := number + 1 }

/-- Renames a file, in place of a file that may be there. -/
def rename (disk : Disk) (source target : String) : Option Disk :=
  match disk.locate? source, disk.find? source, disk.fileLocation? target with
  | some sourceLocation, some (.file number content), some targetLocation =>
      some ((disk.remove sourceLocation).put targetLocation (.file number content))
  | _, _, _ => none

/-! ## Locks -/

def fileNumber? (disk : Disk) (path : String) : Option Nat :=
  match disk.find? path with
  | some (.file number _) => some number
  | _ => none

def isLocked (disk : Disk) (number : Nat) : Bool := disk.locked.contains number

def lock (disk : Disk) (number : Nat) : Disk :=
  { disk with locked := number :: disk.locked }

def unlock (disk : Disk) (number : Nat) : Disk :=
  { disk with locked := disk.locked.erase number }

end Disk

end CodeGraph
