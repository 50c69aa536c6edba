import CodeGraph.Disk
import CodeGraph.Sources.Glob
import CodeGraph.Text.Blank

/-!
# Ignore files

An ignore file in a directory says which entries below the directory are left out.  Of
its rules, the last one that holds for an entry decides.  The files of directories
farther up count where those farther down do not decide, and the files of a repository
count only in a repository and only up to its top.
-/

namespace CodeGraph

inductive Verdict where
  | ignored
  | kept
deriving DecidableEq, Repr

structure IgnoreRule where
  glob : Glob
  verdict : Verdict
  onlyDirectories : Bool
deriving DecidableEq, Repr

namespace IgnoreRule

/-- The glob of a rule, to be held against the path of an entry from the directory of the
ignore file.  Without a slash it holds for a name at any depth, and a rule for
everything below a directory does not hold for the directory. -/
def globText (anchored : Bool) (pattern : List Char) : List Char :=
  let anyDepth := "**/".toList
  let deep :=
    if anchored || pattern.contains '/' || pattern == "**".toList then pattern
    else anyDepth ++ pattern
  if "/**".toList.isSuffixOf deep then deep ++ "/*".toList else deep

/-- The rule on a line, if there is one. -/
def ofLine? (line : String) : Option IgnoreRule :=
  let chars := line.toList
  if chars.head? == some '#' then none
  else
    let trimmed :=
      if "\\ ".toList.isSuffixOf chars then chars
      else Text.dropEndWhile Text.isBlank chars
    if trimmed.isEmpty then none
    else
      let (verdict, unsigned) : Verdict × List Char :=
        match trimmed with
        | '\\' :: '!' :: rest => (.ignored, '!' :: rest)
        | '\\' :: '#' :: rest => (.ignored, '#' :: rest)
        | '!' :: rest => (.kept, rest)
        | _ => (.ignored, trimmed)
      let (anchored, pattern) : Bool × List Char :=
        match unsigned with
        | '/' :: rest => (true, rest)
        | _ => (false, unsigned)
      let (onlyDirectories, named) : Bool × List Char :=
        match pattern.reverse with
        | '/' :: '\\' :: before => (true, before.reverse)
        | '/' :: before => (true, before.reverse)
        | _ => (false, pattern)
      (Glob.ofText? (String.ofList (globText anchored named))).map fun glob =>
        ⟨glob, verdict, onlyDirectories⟩

def holds (rule : IgnoreRule) (path : String) (isDirectory : Bool) : Bool :=
  (!rule.onlyDirectories || isDirectory) && rule.glob.holds path

end IgnoreRule

namespace Ignore

/-- The lines of a file up to the first that is not in UTF-8.  A line may end with a
carriage return before the line feed. -/
def linesOf (content : List UInt8) : List String :=
  let lineFeed : UInt8 := '\n'.toNat.toUInt8
  let carriageReturn : UInt8 := '\r'.toNat.toUInt8
  let withoutReturn := fun (line : List UInt8) =>
    if line.getLast? = some carriageReturn then line.dropLast else line
  let read := (content.splitOn lineFeed).map fun line =>
    String.fromUTF8? ⟨(withoutReturn line).toArray⟩
  (read.takeWhile Option.isSome).filterMap id

/-- The rules in the file at a path.  A mark of the byte order in front does not count,
and neither do lines that are no rules. -/
def rulesAt (disk : Disk) (location : Location) : List IgnoreRule :=
  match disk.at? location with
  | some (.file _ content) =>
      match linesOf content with
      | [] => []
      | first :: rest =>
          let start := String.ofList (first.toList.dropWhile (· == '\uFEFF'))
          (start :: rest).filterMap IgnoreRule.ofLine?
  | _ => []

def verdict? (rules : List IgnoreRule) (path : String) (isDirectory : Bool) :
    Option Verdict :=
  (rules.reverse.find? (·.holds path isDirectory)).map (·.verdict)

/-- The directories above a location, the nearest first. -/
def directoriesAbove (location : Location) : List Location :=
  (List.range location.length).reverse.map location.take

def isRepository (disk : Disk) (directory : Location) : Bool :=
  (disk.at? (directory ++ [".git"])).isSome

/-- The directories up to the top of the nearest repository, if there is one. -/
def withinRepository (disk : Disk) (directories : List Location) : List Location :=
  if directories.any (isRepository disk) then
    directories.takeWhile (!isRepository disk ·) ++ (directories.find? (isRepository disk)).toList
  else []

def verdictOn? (disk : Disk) (location : Location) : Option Verdict :=
  let isDirectory := disk.hasDirectory location
  let above := directoriesAbove location
  let nearest := fun (file : Location) (directories : List Location) =>
    directories.findSome? fun directory =>
      let path := "/".intercalate (location.drop directory.length)
      verdict? (rulesAt disk (directory ++ file)) path isDirectory
  let tracked := withinRepository disk above
  (nearest [".ignore"] above).or
    ((nearest [".gitignore"] tracked).or (nearest [".git", "info", "exclude"] tracked))

/-- Is the entry at a location left out?  A name with a dot in front is, unless an ignore
file keeps it. -/
def skips (disk : Disk) (location : Location) : Bool :=
  match verdictOn? disk location with
  | some verdict => verdict == .ignored
  | none => location.getLast?.any fun name => name.toList.head? == some '.'

end Ignore

end CodeGraph
