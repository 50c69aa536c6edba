import CodeGraph.Java.Outline
import CodeGraph.Sources.Ignore

/-!
# Sources

The sources under a root are the Java files that no ignore file leaves out, in the order
of the names on the way to them.
-/

namespace CodeGraph

def isJavaSource (path : String) : Bool := Path.extension? path == some "java"

namespace Sources

/-- Is nothing left out on the way from a root to a location? -/
def reaches (disk : Disk) (root location : Location) : Bool :=
  (List.range (location.length - root.length)).all fun below =>
    !Ignore.skips disk (location.take (root.length + below + 1))

def locations (disk : Disk) (root : Location) : List Location :=
  let found := disk.files.filter fun location =>
    root.isPrefixOf location && isJavaSource (Disk.pathOf location) &&
      reaches disk root location
  found.mergeSort fun left right => !decide (right < left)

/-- The paths of the sources under a root.  They start with the root as it is given. -/
def collect (disk : Disk) (root : String) : List String :=
  match disk.find? root, disk.locate? root with
  | some _, some start =>
      (locations disk start).map fun location =>
        (location.drop start.length).foldl Path.join root
  | _, _ => []

def outline (disk : Disk) (path : String) : Except Failure Node :=
  match disk.readText? path with
  | some text => Java.outlineOfText path text
  | none => .error .file

/-- The outlines of the sources that can be read, and how many cannot. -/
def outlines (disk : Disk) (paths : List String) : List Node × Nat :=
  let read := paths.map (outline disk)
  let nodes := read.filterMap Except.toOption
  (nodes, read.length - nodes.length)

end Sources

end CodeGraph
