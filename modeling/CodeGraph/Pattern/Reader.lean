import CodeGraph.Pattern.Property

/-!
# Reading patterns

The written form of patterns: literals, escapes, classes in square brackets, groups,
alternatives, repetitions, boundaries, and flags that change the meaning of what
follows in the same group.  A text that is not a pattern has no value.
-/

namespace CodeGraph.Pattern

structure Flags where
  ignoreCase : Bool := false
  multiLine : Bool := false
  dotAll : Bool := false
  returns : Bool := false
  unicode : Bool := true
  /-- Blanks and comments between the parts of a pattern are skipped. -/
  extended : Bool := false

/-- The text that is left, the flags, and the names of the groups so far. -/
structure Reading where
  rest : List Char
  flags : Flags := {}
  names : List (List Char) := []

/-- A step of reading, which may find that the text is not a pattern. -/
abbrev Parse := StateT Reading Option

namespace Parse

/-- The text is not a pattern. -/
def refuse {α : Type} : Parse α := fun _ => none

/-- Goes on only if a condition holds. -/
def require (condition : Bool) : Parse Unit := if condition then pure () else refuse

/-- Goes on with other flags. -/
def withFlags (flags : Flags) : Parse Unit := modify fun reading => { reading with flags }

/-- The next character, which stays. -/
def peek : Parse (Option Char) := do return (← get).rest.head?

def drop (count : Nat) : Parse Unit :=
  modify fun reading => { reading with rest := reading.rest.drop count }

def startsWith (text : String) : Parse Bool := do
  return text.toList.isPrefixOf (← get).rest

def skipText (text : String) : Parse Bool := do
  let found ← startsWith text
  if found then drop text.length
  return found

/-- Reads the next character; there must be one. -/
def next : Parse Char := do
  match (← get).rest with
  | [] => refuse
  | char :: rest =>
      modify fun reading => { reading with rest }
      return char

/-- Reads the next character, which must be the given one. -/
def expect (char : Char) : Parse Unit := do require ((← next) == char)

/-- The rest after blanks and comments. -/
def afterSpace : Nat → List Char → List Char
  | 0, chars => chars
  | fuel + 1, chars =>
      match chars.dropWhile Text.isBlank with
      | '#' :: rest => afterSpace fuel ((rest.dropWhile (· != '\n')).drop 1)
      | chars => chars

/-- The reading without blanks and comments at its start, where they do not count. -/
def unspaced (reading : Reading) : Reading :=
  if reading.flags.extended then
    { reading with rest := afterSpace reading.rest.length reading.rest }
  else reading

def skipSpace : Parse Unit := modify unspaced

/-- Reads the longest run of characters for which a test holds. -/
def takeWhile (test : Char → Bool) : Parse (List Char) :=
  modifyGet fun reading =>
    (reading.rest.takeWhile test, { reading with rest := reading.rest.dropWhile test })

/-- Reads characters for which a test holds, and the space after each where it does not
count. -/
def takeSpaced (test : Char → Bool) : Nat → Parse (List Char)
  | 0 => return []
  | fuel + 1 => do
      match ← takeWhile test with
      | [] => return []
      | chars =>
          skipSpace
          return chars ++ (← takeSpaced test fuel)

/-- Reads the characters up to the given one and that one, and the space between them
where it does not count. -/
def takeUntil (stop : Char) : Nat → Parse (List Char)
  | 0 => refuse
  | fuel + 1 => do
      let char ← next
      if char == stop then return []
      skipSpace
      return char :: (← takeUntil stop fuel)

end Parse

open Parse

/-! ## Characters and classes -/

/-- The set in which case does not count, if that is in force. -/
def foldCase (flags : Flags) (test : CharTest) : CharTest :=
  if !flags.ignoreCase then test
  else if flags.unicode then .folded test
  else .both (.folded test) (.range '\x00' '\x7f')

def isAscii (char : Char) : Bool := char ≤ '\x7f'

/-- A set of characters as the flags allow it: without Unicode, it must not go beyond
ASCII. -/
def allowed (test : CharTest) : Parse CharTest := do
  let flags := (← get).flags
  require (flags.unicode ||
    (List.range 128).all fun offset => !test.accepts (Char.ofNat (128 + offset)))
  return test

def charOfHex (digits : List Char) : Parse Char := do
  match (Text.hexNumber? digits).bind Text.charOfCode? with
  | none => refuse
  | some char => return char

/-- Reads so many characters, and the space after each where it does not count. -/
def nextSpaced : Nat → Parse (List Char)
  | 0 => return []
  | count + 1 => do
      let char ← next
      skipSpace
      return char :: (← nextSpaced count)

/-- Reads a character given by its number, in brackets or with a fixed number of
digits.  Without Unicode, two digits are a byte, which must be in ASCII. -/
def hexChar (digits : Nat) : Parse Char := do
  skipSpace
  if ← skipText "\x7b" then
    skipSpace
    let body ← takeUntil '\x7d' (← get).rest.length
    require !body.isEmpty
    charOfHex body
  else
    let char ← charOfHex (← nextSpaced digits)
    require (digits != 2 || (← get).flags.unicode || isAscii char)
    return char

/-- An escape: a character, a set of characters or a boundary. -/
inductive Escape where
  | char (char : Char)
  | set (test : CharTest)
  | boundary (boundary : Boundary)

/-- The characters of words, as the flags have it. -/
def wordTest (flags : Flags) : CharTest :=
  if flags.unicode then .word else .asciiWord

/-- The set that the name of a property in brackets describes, if it is known, and
whether the characters outside it are meant. -/
def propertyOf (negated : Bool) (body : List Char) : Bool × Option CharTest :=
  match body.span (fun char => char != '=' && char != ':' && char != '!') with
  | (name, []) => (negated, CharTest.property? name)
  | (name, '!' :: '=' :: value) => (!negated, CharTest.propertyValue? name value)
  | (_, '!' :: _) => (negated, CharTest.property? body)
  | (name, _ :: value) => (negated, CharTest.propertyValue? name value)

/-- Reads the name of a property: one letter, or in brackets. -/
def propertyName (negated : Bool) : Parse (Bool × Option CharTest) := do
  if ← skipText "\x7b" then
    skipSpace
    return propertyOf negated (← takeUntil '\x7d' (← get).rest.length)
  else return (negated, CharTest.property? [← next])

/-- Reads the set of a property, after `\p` or `\P`. -/
def propertySet (negated : Bool) : Parse CharTest := do
  let flags := (← get).flags
  require flags.unicode
  skipSpace
  match ← propertyName negated with
  | (_, none) => refuse
  | (negated, some test) =>
      let folded := foldCase flags test
      return if negated then .not folded else folded

def perlSet (flags : Flags) (letter : Char) : CharTest :=
  match letter with
  | 'd' => if flags.unicode then .digit else .asciiDigit
  | 's' => if flags.unicode then .blank else .asciiBlank
  | _ => wordTest flags

def namedBoundary? (isWord : CharTest) (name : String) : Option Boundary :=
  match name with
  | "start" => some (.wordStart isWord)
  | "end" => some (.wordEnd isWord)
  | "start-half" => some (.wordStartHalf isWord)
  | "end-half" => some (.wordEndHalf isWord)
  | _ => none

/-- The first character in the brackets that come next, if there are brackets and if they hold
one. -/
def inBrackets? (reading : Reading) : Option (Option Char) :=
  match reading.rest with
  | '\x7b' :: inside => some (unspaced { reading with rest := inside }).rest.head?
  | _ => none

/-- Reads what follows `\b`: a name in brackets, or nothing.  Brackets that do not hold
a name are left for a repetition. -/
def wordBoundary : Parse Boundary := do
  let reading ← get
  let isWord := wordTest reading.flags
  match inBrackets? reading with
  | none => return .word isWord
  | some none => refuse
  | some (some first) =>
      if first.isAlpha || first == '-' then
        drop 1
        skipSpace
        let name ← takeUntil '\x7d' (← get).rest.length
        match namedBoundary? isWord (String.ofList name) with
        | some boundary => return boundary
        | none => refuse
      else return .word isWord

/-- May the character be escaped to stand for itself? -/
def isEscapable (char : Char) : Bool :=
  isAscii char && !char.isAlphanum && char != '<' && char != '>'

/-- Reads an escape after its backslash. -/
def escape : Parse Escape := do
  let flags := (← get).flags
  let char ← next
  match char with
  | 'x' => return .char (← hexChar 2)
  | 'u' => return .char (← hexChar 4)
  | 'U' => return .char (← hexChar 8)
  | 'p' => return .set (← propertySet false)
  | 'P' => return .set (← propertySet true)
  | 'd' | 's' | 'w' => return .set (perlSet flags char)
  | 'D' | 'S' | 'W' => return .set (.not (perlSet flags char.toLower))
  | 'a' => return .char '\x07'
  | 'f' => return .char '\x0c'
  | 't' => return .char '\t'
  | 'n' => return .char '\n'
  | 'r' => return .char '\r'
  | 'v' => return .char '\x0b'
  | 'A' => return .boundary .textStart
  | 'z' => return .boundary .textEnd
  | 'b' => return .boundary (← wordBoundary)
  | 'B' => return .boundary (.notWord (wordTest flags))
  | '<' => return .boundary (.wordStart (wordTest flags))
  | '>' => return .boundary (.wordEnd (wordTest flags))
  | char =>
      require (isEscapable char)
      return .char char

/-- The set of one character, as the flags have it. -/
def literalSet (flags : Flags) (char : Char) : CharTest :=
  if flags.unicode || isAscii char then foldCase flags (.exactly char) else .exactly char

/-- An item of a class: a single character, which may start a range, or a set. -/
inductive ClassItem where
  | char (char : Char)
  | set (test : CharTest)

def ClassItem.test : ClassItem → CharTest
  | char single => .exactly single
  | set test => test

/-- A single character as an item of a class; without Unicode, it must be in ASCII. -/
def classChar (char : Char) : Parse ClassItem := do
  require ((← get).flags.unicode || isAscii char)
  return .char char

def classItem : Parse ClassItem := do
  match ← next with
  | '\\' =>
      match ← escape with
      | .char char => classChar char
      | .set test => return .set (← allowed test)
      | .boundary _ => refuse
  | char => classChar char

/-- Does a dash come next that stands between the ends of a range? -/
def opensRange (reading : Reading) : Bool :=
  match reading.rest with
  | '-' :: rest =>
      let after := (unspaced { reading with rest }).rest.head?
      after != some ']' && after != some '-'
  | _ => false

/-- The set of the characters from one to another, which must be in that order. -/
def rangeOf : ClassItem → ClassItem → Parse CharTest
  | .char first, .char last => do
      require (first ≤ last)
      return .range first last
  | _, _ => refuse

/-- Reads an item of a class, or a range from one character to another. -/
def classRange : Parse CharTest := do
  let first ← classItem
  skipSpace
  let reading ← get
  require (!reading.rest.isEmpty)
  if opensRange reading then
    drop 1
    skipSpace
    rangeOf first (← classItem)
  else return first.test

/-- The class of ASCII characters whose name a text starts with, and what follows it. -/
def namedClass? (negated : Bool) (chars : List Char) : Option (CharTest × List Char) :=
  let rest := chars.dropWhile (· != ':')
  if [':', ']'].isPrefixOf rest then
    (CharTest.asciiClass? (String.ofList (chars.takeWhile (· != ':')))).map fun test =>
      (if negated then .not test else test, rest.drop 2)
  else none

/-- A class of ASCII characters by name, `[:alpha:]`, at the start of a text, and what
follows it. -/
def asciiClassOf? (chars : List Char) : Option (CharTest × List Char) :=
  if ['[', ':', '^'].isPrefixOf chars then namedClass? true (chars.drop 3)
  else if ['[', ':'].isPrefixOf chars then namedClass? false (chars.drop 2)
  else none

/-- Reads a class of ASCII characters by name, if there is one. -/
def asciiClass : Parse (Option CharTest) := do
  match asciiClassOf? (← get).rest with
  | some (test, rest) =>
      modify fun reading => { reading with rest }
      return some test
  | none => return none

inductive SetOperation where
  | intersection
  | difference
  | symmetric

def SetOperation.apply (operation : SetOperation) (left right : CharTest) : CharTest :=
  match operation with
  | intersection => .both left right
  | difference => .both left (.not right)
  | symmetric => .either (.both left (.not right)) (.both right (.not left))

/-- The set of what has been read of a class: an operation that waits for its second
set, and the set that is being read. -/
def closeSets (flags : Flags) (waiting : Option (CharTest × SetOperation))
    (current : CharTest) : CharTest :=
  match waiting with
  | none => foldCase flags current
  | some (left, operation) => operation.apply left (foldCase flags current)

def setOperation? (chars : List Char) : Option SetOperation :=
  if ['&', '&'].isPrefixOf chars then some .intersection
  else if ['-', '-'].isPrefixOf chars then some .difference
  else if ['~', '~'].isPrefixOf chars then some .symmetric
  else none

/-- Reads the characters at the start of a class that stand for themselves there:
dashes, or a closing bracket. -/
def classOpening : Parse CharTest := do
  let dashes ← takeSpaced (· == '-') (← get).rest.length
  if !dashes.isEmpty then return .exactly '-'
  if ← skipText "]" then return .exactly ']'
  return .never

/-- What comes next in a class. -/
inductive ClassPart where
  | ends
  | nested
  | operation (operation : SetOperation)
  | range

def classPart? (chars : List Char) : Option ClassPart :=
  match chars.head? with
  | none => none
  | some ']' => some .ends
  | some '[' => some .nested
  | some _ => some ((setOperation? chars).elim .range .operation)

mutual

/-- Reads a class after its opening bracket. -/
def classBody : Nat → Parse CharTest
  | 0 => refuse
  | fuel + 1 => do
      skipSpace
      let negated ← skipText "^"
      skipSpace
      let test ← classItems fuel none (← classOpening)
      let flags := (← get).flags
      let folded := foldCase flags test
      allowed (if negated then .not folded else folded)

def classItems : Nat → Option (CharTest × SetOperation) → CharTest → Parse CharTest
  | 0, _, _ => refuse
  | fuel + 1, waiting, current => do
      skipSpace
      let reading ← get
      match classPart? reading.rest with
      | none => refuse
      | some .ends =>
          drop 1
          return closeSets reading.flags waiting current
      | some .nested =>
          match ← asciiClass with
          | some test => classItems fuel waiting (.either current (← allowed test))
          | none =>
              drop 1
              let nested ← classBody fuel
              classItems fuel waiting (.either current nested)
      | some (.operation operation) =>
          drop 2
          classItems fuel (some (closeSets reading.flags waiting current, operation)) .never
      | some .range =>
          let test ← classRange
          classItems fuel waiting (.either current test)

end

/-! ## Groups and repetitions -/

def decimal : Parse Nat := do
  let _ ← takeWhile Text.isBlank
  let digits ← takeSpaced Char.isDigit (← get).rest.length
  let _ ← takeWhile Text.isBlank
  require (!digits.isEmpty)
  let value := digits.foldl (fun value digit => 10 * value + (digit.toNat - '0'.toNat)) 0
  require (value < 1 <<< 32)
  return value

/-- Reads how often something comes at most, if there is a bound, after how often it comes at
least. -/
def upTo (least : Nat) : Parse (Option Nat) := do
  if ← skipText "," then
    skipSpace
    if (← peek) == some '\x7d' then return none
    return some (← decimal)
  return some least

/-- Reads the numbers of a counted repetition, after its opening bracket: at least, and
at most. -/
def counts : Parse (Nat × Option Nat) := do
  skipSpace
  let least ← decimal
  let most ← upTo least
  expect '\x7d'
  require (most.all (least ≤ ·))
  return (least, most)

/-- A flag letter, switched on or off. -/
def switchFlag (flags : Flags) (letter : Char) (value : Bool) : Option Flags :=
  match letter with
  | 'i' => some { flags with ignoreCase := value }
  | 'm' => some { flags with multiLine := value }
  | 's' => some { flags with dotAll := value }
  | 'R' => some { flags with returns := value }
  | 'u' => some { flags with unicode := value }
  | 'x' => some { flags with extended := value }
  | 'U' => some flags
  | _ => none

/-- Reads flag letters up to a colon or a closing bracket: no letter twice, and the sign
that switches off once and not last. -/
def flagLetters : Nat → List Char → Bool → Flags → Parse (List Char × Flags)
  | 0, _, _, _ => refuse
  | fuel + 1, seen, value, flags => do
      match ← peek with
      | some ':' | some ')' =>
          require (seen.head? != some '-')
          return (seen, flags)
      | some letter =>
          drop 1
          require (!seen.contains letter)
          if letter == '-' then flagLetters fuel (letter :: seen) false flags
          else
            match switchFlag flags letter value with
            | none => refuse
            | some flags => flagLetters fuel (letter :: seen) value flags
      | none => refuse

def isNamePart (first : Bool) (char : Char) : Bool :=
  char == '_' || CharTest.alphabetic.accepts char ||
    (!first && (CharTest.ofTables Text.Category.number |>.accepts char)) ||
    (!first && (char == '.' || char == '[' || char == ']'))

/-- Reads the name of a group up to its closing bracket; no name comes twice. -/
def groupName : Parse Unit := do
  let name ← takeWhile (· != '>')
  expect '>'
  match name with
  | [] => refuse
  | first :: rest =>
      require (isNamePart true first && rest.all (isNamePart false))
      require (!(← get).names.contains name)
      modify fun reading => { reading with names := name :: reading.names }

/-- Reads what stands before the name of a group, if it has one. -/
def nameOpening : Parse Bool := do
  if ← skipText "?P<" then return true
  skipText "?<"

/-- The pattern of a single character that is not an escape. -/
def plainChar (char : Char) : Parse Pattern := do
  let flags := (← get).flags
  match char with
  | '.' =>
      let test : CharTest :=
        if flags.dotAll then .not .never
        else if flags.returns then .not (.either (.exactly '\n') (.exactly '\r'))
        else .not (.exactly '\n')
      return .oneOf (← allowed test)
  | '^' =>
      return .check <|
        if !flags.multiLine then .textStart
        else if flags.returns then .returnLineStart
        else .lineStart
  | '$' =>
      return .check <|
        if !flags.multiLine then .textEnd
        else if flags.returns then .returnLineEnd
        else .lineEnd
  | char => return .oneOf (literalSet flags char)

/-- Reads a single character, a class, a boundary or an escape. -/
def primitive (fuel : Nat) : Parse Pattern := do
  match ← next with
  | '\\' =>
      match ← escape with
      | .char char => return .oneOf (literalSet (← get).flags char)
      | .set test => return .oneOf (← allowed test)
      | .boundary boundary => return .check boundary
  | '[' => return .oneOf (← classBody fuel)
  | char => plainChar char

/-- The parts of a sequence, the last one first.  A change of flags is a part that
cannot be repeated. -/
abbrev Parts := List (Pattern × Bool)

def ofParts (parts : Parts) : Pattern :=
  parts.foldl (fun pattern part => .seq part.1 pattern) .empty

/-- The sequence with its last part repeated. -/
def repeatLast (least : Nat) (most : Option Nat) : Parts → Parse Parts
  | (body, true) :: parts =>
      return (.repeated body least (most.map (· - least)), true) :: parts
  | _ => refuse

mutual

def alternatives : Nat → Parse Pattern
  | 0 => refuse
  | fuel + 1 => do
      let first ← sequence fuel []
      if ← skipText "|" then return .either first (← alternatives fuel)
      return first

def sequence : Nat → Parts → Parse Pattern
  | 0, _ => refuse
  | fuel + 1, parts => do
      skipSpace
      match ← peek with
      | none | some '|' | some ')' => return ofParts parts
      | some '(' =>
          drop 1
          let part ← group fuel
          sequence fuel (part :: parts)
      | some '?' | some '*' | some '+' =>
          let sign ← next
          let _ ← skipText "?"
          let least := if sign == '+' then 1 else 0
          let most := if sign == '?' then some 1 else none
          sequence fuel (← repeatLast least most parts)
      | some '\x7b' =>
          drop 1
          let (least, most) ← counts
          skipSpace
          let _ ← skipText "?"
          sequence fuel (← repeatLast least most parts)
      | some _ =>
          let part ← primitive fuel
          sequence fuel ((part, true) :: parts)

/-- Reads a group after its opening bracket, or a change of flags. -/
def group : Nat → Parse (Pattern × Bool)
  | 0 => refuse
  | fuel + 1 => do
      let outside := (← get).flags
      skipSpace
      let looks ← ["?=", "?!", "?<=", "?<!"].anyM startsWith
      require (!looks)
      if ← nameOpening then
        groupName
        closeGroup fuel outside
      else if ← skipText "?" then
        let (seen, flags) ← flagLetters fuel [] true outside
        let sign ← next
        withFlags flags
        if sign == ')' then
          require (!seen.isEmpty)
          return (.empty, false)
        closeGroup fuel outside
      else closeGroup fuel outside

/-- Reads the body of a group and its closing bracket; the flags from outside are in
force again after it. -/
def closeGroup : Nat → Flags → Parse (Pattern × Bool)
  | 0, _ => refuse
  | fuel + 1, outside => do
      let body ← alternatives fuel
      expect ')'
      withFlags outside
      return (body, true)

end

/-- The pattern that a text describes, if it is well formed. -/
def ofText? (text : String) : Option Pattern :=
  let chars := text.toList
  match (alternatives (8 * chars.length + 8)).run { rest := chars } with
  | some (pattern, reading) => if reading.rest.isEmpty then some pattern else none
  | none => none

end CodeGraph.Pattern
