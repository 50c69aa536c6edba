import CodeGraph.Number.Binary64
import CodeGraph.Toml.Document
import CodeGraph.Toml.Token

/-!
# Reading TOML

The grammar, with blanks between any two items that are not said to touch:

* document: lines, each empty, a header, or a dotted key, `=` and a value
* header: `[` dotted key `]`, or `[[` dotted key `]]`
* dotted key: keys with `.` between them; a key is a word or a text on one line
* value: a text, `true`, `false`, a number, a date, a list or a table
* list: `[` values with `,` between them and perhaps at the end `]`, over several lines
* table: `{` dotted keys and values with `,` between them `}`, on one line

Of a date only the shape is checked.
-/

namespace CodeGraph.Toml

abbrev Reading := StateT (List Token) Option

namespace Grammar

/-! ## Tokens -/

def next : Reading Token := fun
  | [] => none
  | token :: rest => some (token, rest)

def accept (token : Token) : Reading Bool := fun
  | [] => some (false, [])
  | first :: rest => some (if first = token then (true, rest) else (false, first :: rest))

def expect (token : Token) : Reading Unit := do
  if ← accept token then return () else failure

def isBlank : Token → Bool
  | .blank _ => true
  | _ => false

def skipBlanks : Reading Unit := modify (·.dropWhile isBlank)

def skipLines : Reading Unit :=
  modify (·.dropWhile fun token => isBlank token || token == .newline)

def word : Reading (List Char) := do
  match ← next with
  | .word chars => return chars
  | _ => failure

/-- Reads the end of a line, or of the text. -/
def lineEnd : Reading Unit := do
  skipBlanks
  match ← get with
  | [] => return ()
  | _ => expect .newline

/-! ## Numbers and dates -/

/-- Is the character a digit in a system of at most sixteen digits? -/
def isDigitIn (base : Nat) (char : Char) : Bool :=
  match Text.digitValue? char with
  | some value => decide (value < base)
  | none => false

/-- Digits at the front, with single underscores between them, and what follows. -/
def digits? (base : Nat) (leadingZeros : Bool) (chars : List Char) :
    Option (List Char × List Char) :=
  let isPart := fun char => isDigitIn base char || char == '_'
  let run := chars.takeWhile isPart
  let pieces := Text.splitChars (· == '_') run
  if pieces.any List.isEmpty then none
  else if !leadingZeros && run.head? == some '0' && 1 < run.length then none
  else some (pieces.flatten, chars.dropWhile isPart)

/-- A minus sign at the front, and what follows a sign. -/
def signed : List Char → Bool × List Char
  | '-' :: rest => (true, rest)
  | chars => (false, chars)

def integer (base : Nat) (chars : List Char) : Reading Value := do
  let (negative, unsigned) := if base = 10 then signed chars else (false, chars)
  match digits? base (base != 10) unsigned with
  | some (digits, []) =>
      let size : Int := Text.natOfDigits base digits
      let value := if negative then -size else size
      if Int64.minValue.toInt ≤ value && value ≤ Int64.maxValue.toInt then return .int value
      else failure
  | _ => failure

/-- Does the decimal `mantissa * 10 ^ exponent` round to a finite number? -/
def isFiniteDecimal (mantissa : Nat) (exponent : Int) : Bool :=
  if mantissa = 0 then true
  else if 400 < exponent then false
  else if exponent < -(400 + (Nat.toDigits 10 mantissa).length : Int) then true
  else !(Binary64.ofDecimal false mantissa exponent).isInfinite

/-- The exponent of a number whose word ends in the given way.  A plus sign is a token
by itself. -/
def exponent : List Char → Reading Int
  | [] => return 0
  | letter :: chars => do
      if letter != 'e' && letter != 'E' then failure
      let (negative, unsigned) ←
        if chars.isEmpty then
          let _ ← accept (.mark '+')
          pure (false, ← word)
        else pure (signed chars)
      match digits? 10 true unsigned with
      | some (digits, []) =>
          let size : Int := Text.natOfDigits 10 digits
          return if negative then -size else size
      | _ => failure

def float (chars : List Char) (fraction : Option (List Char)) : Reading Value := do
  let some (whole, rest) := digits? 10 false (signed chars).2 | failure
  let (places, ending) ←
    match fraction with
    | none => pure ([], rest)
    | some after =>
        if !rest.isEmpty then failure
        match digits? 10 true after with
        | some split => pure split
        | none => failure
  let power ← exponent ending
  if isFiniteDecimal (Text.natOfDigits 10 (whole ++ places)) (power - places.length) then return .float
  else failure

/-- Infinity and what is not a number, with or without a minus sign. -/
def isSpecial (chars : List Char) : Bool :=
  let name := (signed chars).2
  name == "inf".toList || name == "nan".toList

def number (chars : List Char) : Reading Value := do
  match chars with
  | '0' :: 'x' :: digits => integer 16 digits
  | '0' :: 'o' :: digits => integer 8 digits
  | '0' :: 'b' :: digits => integer 2 digits
  | _ =>
      if chars.contains 'e' || chars.contains 'E' then float chars none
      else if ← accept (.mark '.') then float chars (some (← word))
      else if isSpecial chars then return .float
      else integer 10 chars

/-- Does a word have the shape of a date: a time after it, or a dash that is neither a
sign nor the sign of an exponent? -/
def isDate (chars : List Char) : Bool :=
  let negativeExponent := (chars.zip chars.tail).any fun (first, second) =>
    (first == 'e' || first == 'E') && second == '-'
  chars.contains 'T' || chars.contains 't' ||
    (chars.tail.contains '-' && !negativeExponent)

/-- The rest of a date and time, after the date or after the hour and a colon. -/
def date (afterColon : Bool) : Reading Value := do
  modify fun
    | .blank true :: .word _ :: rest => rest
    | tokens => tokens
  if afterColon || (← accept (.mark ':')) then
    let _ ← word
    expect (.mark ':')
    let _ ← word
    if ← accept (.mark '.') then let _ ← word
    if ← accept (.mark '+') then let _ ← word
    if ← accept (.mark ':') then let _ ← word
  return .date

def wordValue (chars : List Char) : Reading Value := do
  if chars == "true".toList then return .bool true
  if chars == "false".toList then return .bool false
  if !isSpecial chars && !chars.head?.any (fun char => char.isDigit || char == '-') then
    failure
  if isDate chars then date false
  else if ← accept (.mark ':') then date true
  else number chars

/-! ## Keys and values -/

def key : Reading String := do
  match ← next with
  | .word chars => return String.ofList chars
  | .text value false => return value
  | _ => failure

/-- Reads the rest of a dotted key, of at most `fuel` parts. -/
def moreKeys : Nat → Reading (List String)
  | 0 => return []
  | fuel + 1 => do
      skipBlanks
      if ← accept (.mark '.') then
        skipBlanks
        return (← key) :: (← moreKeys fuel)
      else return []

def dottedKey : Reading (List String) := do
  let first ← key
  return first :: (← moreKeys (← get).length)

mutual

/-- Reads a value nested at most `fuel` deep. -/
def value : Nat → Reading Value
  | 0 => failure
  | fuel + 1 => do
      match ← next with
      | .text value _ => return .text value
      | .word chars => wordValue chars
      | .mark '+' => number (← word)
      | .mark '[' => return .list (← items fuel)
      | .mark '\x7b' =>
          skipBlanks
          if ← accept (.mark '\x7d') then return .table false []
          else return .table false (← inlineEntries fuel [])
      | _ => failure

def items : Nat → Reading (List Value)
  | 0 => failure
  | fuel + 1 => do
      skipLines
      if ← accept (.mark ']') then return []
      let item ← value fuel
      skipLines
      if ← accept (.mark ',') then return item :: (← items fuel)
      expect (.mark ']')
      return [item]

/-- Reads the rest of a table after the entries that have been read. -/
def inlineEntries : Nat → Entries → Reading Entries
  | 0, _ => failure
  | fuel + 1, done => do
      let keys ← dottedKey
      expect (.mark '=')
      skipBlanks
      let item ← value fuel
      let some entries := done.add? item keys | failure
      skipBlanks
      if ← accept (.mark '\x7d') then return entries
      expect (.mark ',')
      skipBlanks
      inlineEntries fuel entries

end

/-! ## Documents -/

/-- Reads a header after its first bracket. -/
def header : Reading Section := do
  let isElement ← accept (.mark '[')
  skipBlanks
  let keys ← dottedKey
  expect (.mark ']')
  if isElement then expect (.mark ']')
  lineEnd
  return ⟨keys, isElement, []⟩

/-- Reads a key and its value, and adds them to entries. -/
def entry (entries : Entries) : Reading Entries := do
  let keys ← dottedKey
  expect (.mark '=')
  skipBlanks
  let item ← value (2 * (← get).length + 2)
  lineEnd
  match entries.add? item keys with
  | some added => return added
  | none => failure

/-- Adds an entry to the last section, or in front of all. -/
def addEntry (document : Document) : Reading Document := do
  match document.sections with
  | [] => return { document with entries := ← entry document.entries }
  | last :: earlier =>
      return { document with
        sections := { last with entries := ← entry last.entries } :: earlier }

/-- Reads lines, at most `fuel` of them, after those of `document`, whose sections stand
in reverse. -/
def lines : Nat → Document → Reading Document
  | 0, _ => failure
  | fuel + 1, document => do
      skipLines
      if (← get).isEmpty then return document
      else if ← accept (.mark '[') then
        let opened ← header
        lines fuel { document with sections := opened :: document.sections }
      else lines fuel (← addEntry document)

end Grammar

/-- The document that a text is, if it is one. -/
def Document.ofText? (text : String) : Option Document := do
  let tokens ← Token.ofText? text
  let (read, _) ← (Grammar.lines (tokens.length + 1) ⟨[], []⟩).run tokens
  let document := { read with sections := read.sections.reverse }
  if document.headersAgree then some document else none

end CodeGraph.Toml
