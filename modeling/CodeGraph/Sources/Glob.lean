/-!
# Globs

A glob describes paths byte by byte.  `?` stands for a byte and `*` for any number of
bytes, none of them a slash; `[...]` stands for one of several bytes; `**` between
slashes stands for any directories; and `{a,b}` leaves a choice.  A glob with choices is
kept as the list of its variants without.
-/

namespace CodeGraph

namespace Glob

/-- A part of a glob without choices. -/
inductive Part where
  | byte (value : UInt8)
  | one
  | run
  | oneOf (negated : Bool) (ranges : List (UInt8 × UInt8))
  /-- Nothing, or any directories up to a slash. -/
  | anyStart
  /-- A slash, or any directories between two slashes. -/
  | anyBetween
  | anyBelow
deriving DecidableEq, Repr

/-- A glob without choices. -/
abbrev Variant := List Part

/-! ## Matching -/

/-- The byte between the names of a path. -/
def slash : UInt8 := '/'.toNat.toUInt8

/-- What is left after each number of bytes other than slashes. -/
def tailsOfRun : List UInt8 → List (List UInt8)
  | [] => [[]]
  | byte :: rest => (byte :: rest) :: (if byte = slash then [] else tailsOfRun rest)

/-- What is left after each slash. -/
def tailsAfterSlash : List UInt8 → List (List UInt8)
  | [] => []
  | byte :: rest =>
      if byte = slash then rest :: tailsAfterSlash rest else tailsAfterSlash rest

/-- Everything that can be left after some bytes. -/
def tails : List UInt8 → List (List UInt8)
  | [] => [[]]
  | byte :: rest => (byte :: rest) :: tails rest

def inRanges (ranges : List (UInt8 × UInt8)) (byte : UInt8) : Bool :=
  ranges.any fun range => range.1 ≤ byte && byte ≤ range.2

def describes : Variant → List UInt8 → Bool
  | [], bytes => bytes.isEmpty
  | .byte value :: parts, bytes =>
      match bytes with
      | byte :: rest => byte == value && describes parts rest
      | [] => false
  | .one :: parts, bytes =>
      match bytes with
      | byte :: rest => byte != slash && describes parts rest
      | [] => false
  | .oneOf negated ranges :: parts, bytes =>
      match bytes with
      | byte :: rest => (inRanges ranges byte != negated) && describes parts rest
      | [] => false
  | .run :: parts, bytes => (tailsOfRun bytes).any fun rest => describes parts rest
  | .anyStart :: parts, bytes =>
      (bytes :: tailsAfterSlash bytes).any fun rest => describes parts rest
  | .anyBetween :: parts, bytes =>
      match bytes with
      | byte :: more =>
          byte == slash &&
            (more :: tailsAfterSlash more).any fun rest => describes parts rest
      | [] => false
  | .anyBelow :: parts, bytes =>
      match bytes with
      | byte :: more => byte == slash && (tails more).any fun rest => describes parts rest
      | [] => false

/-! ## Reading -/

def bytesOf (char : Char) : List UInt8 := (String.ofList [char]).toUTF8.toList

/-- The ranges of bytes for a range of characters: only the byte where one ends and the
other starts makes a range, all other bytes stand for themselves. -/
def byteRanges (range : Char × Char) : List (UInt8 × UInt8) :=
  let single := fun byte => (byte, byte)
  let first := bytesOf range.1
  let last := bytesOf range.2
  if range.1 = range.2 then first.map single
  else
    first.dropLast.map single ++
      [(first.getLast?.getD 0, last.head?.getD 0)] ++ last.tail.map single

/-- Reads the rest of a class of bytes: `ranges` have been read, the last one first, and
`isOpen` says that a dash waits for the end of the last one. -/
def classRest (ranges : List (Char × Char)) (isOpen : Bool) :
    List Char → Option (List (Char × Char) × List Char)
  | [] => none
  | char :: rest =>
      match ranges with
      | [] => classRest [(char, char)] false rest
      | last :: earlier =>
          if char = ']' then
            some (if isOpen then ('-', '-') :: ranges else ranges, rest)
          else if isOpen then
            if char < last.1 then none else classRest ((last.1, char) :: earlier) false rest
          else if char = '-' then classRest ranges true rest
          else classRest ((char, char) :: ranges) false rest

/-- Reads a class of bytes after its opening bracket. -/
def class? (chars : List Char) : Option (Part × List Char) :=
  let (negated, start) : Bool × List Char :=
    match chars with
    | '!' :: rest | '^' :: rest => (true, rest)
    | _ => (false, chars)
  (classRest [] false start).map fun (ranges, rest) =>
    (.oneOf negated (ranges.flatMap byteRanges), rest)

/-- A choice that is being read, or the whole glob.  Variants stand in reverse. -/
structure Choice where
  finished : List Variant := []
  current : List Variant := [[]]
  started : Bool := false

def Choice.push (choice : Choice) (part : Part) : Choice :=
  { choice with current := choice.current.map (part :: ·), started := true }

/-- Goes on with a character that stands for itself. -/
def Choice.pushChar (choice : Choice) (char : Char) : Choice :=
  (bytesOf char).foldl (fun choice byte => choice.push (.byte byte)) choice

/-- Puts a part for any directories in place of the slash before it; parts of that sort
stay as they are. -/
def Choice.widen (choice : Choice) (part : Part) : Choice :=
  let widened : Variant → Variant
    | .anyStart :: before => .anyStart :: before
    | .anyBelow :: before => .anyBelow :: before
    | _ :: before => part :: before
    | [] => [part]
  { choice with current := choice.current.map widened }

def Choice.another (choice : Choice) : Choice :=
  { finished := choice.finished ++ choice.current }

/-- Goes on with the alternatives of an inner choice; empty ones do not count. -/
def Choice.include (choice inner : Choice) : Choice :=
  let variants := (inner.finished ++ inner.current).filter (!·.isEmpty)
  let variants := if variants.isEmpty then [[]] else variants
  { choice with
    current := choice.current.flatMap fun before => variants.map (· ++ before)
    started := true }

/-- Goes on with what a star begins, when `rest` follows it. -/
def Choice.star (choice : Choice) (inBraces : Bool) (previous : Option Char)
    (rest : List Char) : Choice × List Char :=
  match rest with
  | '*' :: after =>
      let plain := (choice.push .run, after)
      if !choice.started then
        match after with
        | [] => (choice.push .anyStart, [])
        | '/' :: more => (choice.push .anyStart, more)
        | _ => plain
      else if previous != some '/' &&
          !(inBraces && (previous == some ',' || previous == some '\x7b')) then plain
      else
        match after with
        | [] => (choice.widen .anyBelow, [])
        | '/' :: more => (choice.widen .anyBetween, more)
        | next :: _ =>
            if inBraces && (next == ',' || next == '\x7d') then
              (choice.widen .anyBelow, after)
            else plain
  | _ => (choice.push .run, rest)

/-- Reads a glob in at most `fuel` steps, within the choices `outer`, after the character
`previous`. -/
def readWithin : Nat → Choice → List Choice → Option Char → List Char →
    Option (List Variant)
  | 0, _, _, _, _ => none
  | _ + 1, choice, outer, _, [] =>
      if outer.isEmpty then some (choice.current.map List.reverse) else none
  | fuel + 1, choice, outer, previous, char :: rest =>
      let goOn := fun (choice : Choice) (outer : List Choice) (after : List Char) =>
        let taken := (char :: rest).take ((char :: rest).length - after.length)
        readWithin fuel choice outer taken.getLast? after
      match char, outer with
      | '?', _ => goOn (choice.push .one) outer rest
      | '*', _ =>
          let (next, after) := choice.star (!outer.isEmpty) previous rest
          goOn next outer after
      | '[', _ =>
          match class? rest with
          | some (part, after) => goOn (choice.push part) outer after
          | none => none
      | '\x7b', _ => goOn {} (choice :: outer) rest
      | '\x7d', [] => none
      | '\x7d', around :: further => goOn (around.include choice) further rest
      | ',', _ :: _ => goOn choice.another outer rest
      | '\\', _ =>
          match rest with
          | [] => none
          | escaped :: after => goOn (choice.pushChar escaped) outer after
      | _, _ => goOn (choice.pushChar char) outer rest

end Glob

/-- A glob, given by its variants. -/
structure Glob where
  variants : List Glob.Variant
deriving DecidableEq, Repr

namespace Glob

/-- The glob that a text is, if it is one.  Every step reads at least one character. -/
def ofText? (text : String) : Option Glob :=
  let chars := text.toList
  (readWithin (chars.length + 1) {} [] none chars).map (⟨·⟩)

/-- Does the glob describe a path?  Two stars alone describe every path. -/
def holds (glob : Glob) (path : String) : Bool :=
  let bytes := path.toUTF8.toList
  glob.variants.any fun variant => variant == [.anyStart] || describes variant bytes

end Glob

end CodeGraph
