import CodeGraph.Json
import CodeGraph.Number.Shortest

/-!
# Structured values as text

A structured value is written on one line without blanks, or with one entry a line, two
blanks deeper for each level.  Empty lists and maps are always written without a line
break.
-/

namespace CodeGraph.Json

/-- How a character stands in a string: the quote, the backslash and the controls
are escaped, everything else is itself. -/
def escapedChar (char : Char) : List Char :=
  if char = '"' then ['\\', '"']
  else if char = '\\' then ['\\', '\\']
  else if char = '\n' then ['\\', 'n']
  else if char = '\r' then ['\\', 'r']
  else if char = '\t' then ['\\', 't']
  else if char = '\x08' then ['\\', 'b']
  else if char = '\x0c' then ['\\', 'f']
  else if char.toNat < 0x20 then
    let digits := Nat.toDigits 16 char.toNat
    ['\\', 'u'] ++ List.replicate (4 - digits.length) '0' ++ digits
  else [char]

/-- A string between double quotes. -/
def quotedText (text : String) : String :=
  String.ofList ('"' :: text.toList.flatMap escapedChar ++ ['"'])

/-- The text of a value without parts.  What is not a finite number is written as
nothing. -/
def leafText : Json → String
  | .null | .list _ | .map _ => "null"
  | .bool value => if value then "true" else "false"
  | .int value => toString value
  | .float value =>
      if value.isNaN || value.isInfinite then "null" else value.renderMarked
  | .text value => quotedText value

mutual

def compact : Json → String
  | .list items => "[" ++ ",".intercalate (compactItems items) ++ "]"
  | .map entries => "\x7b" ++ ",".intercalate (compactEntries entries) ++ "\x7d"
  | leaf => leafText leaf

/-- The items of a list, each on one line. -/
def compactItems : List Json → List String
  | [] => []
  | item :: items => compact item :: compactItems items

/-- The entries of a map, each on one line. -/
def compactEntries : List (String × Json) → List String
  | [] => []
  | (key, value) :: entries => (quotedText key ++ ":" ++ compact value) :: compactEntries entries

end

private def margin (depth : Nat) : String :=
  "\n" ++ String.ofList (List.replicate (2 * depth) ' ')

mutual

/-- The value as indented text, `depth` levels deep. -/
def prettyAt (depth : Nat) : Json → String
  | .list [] => "[]"
  | .list (item :: items) =>
      "[" ++ prettyItems (depth + 1) (item :: items) ++ margin depth ++ "]"
  | .map [] => "\x7b\x7d"
  | .map (entry :: entries) =>
      "\x7b" ++ prettyEntries (depth + 1) (entry :: entries) ++ margin depth ++ "\x7d"
  | leaf => leafText leaf

/-- The items of a list, one a line. -/
def prettyItems (depth : Nat) : List Json → String
  | [] => ""
  | [item] => margin depth ++ prettyAt depth item
  | item :: items =>
      margin depth ++ prettyAt depth item ++ "," ++ prettyItems depth items

/-- The entries of a map, one a line. -/
def prettyEntries (depth : Nat) : List (String × Json) → String
  | [] => ""
  | [(key, value)] => margin depth ++ quotedText key ++ ": " ++ prettyAt depth value
  | (key, value) :: entries =>
      margin depth ++ quotedText key ++ ": " ++ prettyAt depth value ++ "," ++
        prettyEntries depth entries

end

def pretty (value : Json) : String := prettyAt 0 value

end CodeGraph.Json
