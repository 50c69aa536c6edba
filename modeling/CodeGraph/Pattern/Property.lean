import CodeGraph.Pattern
import CodeGraph.Text.BinaryProperty
import CodeGraph.Text.Category
import CodeGraph.Text.Identifier
import CodeGraph.Text.Printable
import CodeGraph.Text.Script
import CodeGraph.Text.Uppercase

/-!
# Named sets of characters

The sets that patterns call by name: digits, blanks and word characters, the classes
of ASCII, and the Unicode properties.
-/

namespace CodeGraph.CharTest

def blank : CharTest :=
  .table (Text.CharSet.ofText "9-D 20 85 A0 1680 2000-200A 2028-2029 202F 205F 3000")

/-- The decimal digits of all scripts. -/
def digit : CharTest := .table Text.Category.decimalNumber

/-- The letters of Unicode, the letter-like numbers, and the marks and signs that count
as letters. -/
def alphabetic : CharTest :=
  .either (.ofTables Text.Category.letter)
    (.ofTables [Text.Category.letterNumber, Text.BinaryProperty.otherAlphabetic])

def lowercase : CharTest :=
  .ofTables [Text.Category.lowercaseLetter, Text.BinaryProperty.otherLowercase]

/-- The characters of Unicode that are lowercase, uppercase or titlecase. -/
def cased : CharTest :=
  .either lowercase (.ofTables [Text.uppercase, Text.Category.titlecaseLetter])

/-- The characters of words: letters, marks, digits, connectors and joiners. -/
def word : CharTest :=
  .either alphabetic
    (.either (.ofTables Text.Category.mark)
      (.either digit
        (.either (.table Text.Category.connectorPunctuation)
          (.range '\u200C' '\u200D'))))

def asciiDigit : CharTest := .range '0' '9'

def asciiAlpha : CharTest := .either (.range 'a' 'z') (.range 'A' 'Z')

def asciiWord : CharTest := .either asciiAlpha (.either asciiDigit (.exactly '_'))

def asciiBlank : CharTest := .either (.range '\t' '\r') (.exactly ' ')

def asciiPunctuation : CharTest :=
  .either (.range '!' '/') (.either (.range ':' '@')
    (.either (.range '[' '\x60') (.range '\x7b' '~')))

def asciiClass? (name : String) : Option CharTest :=
  match name with
  | "alnum" => some (.either asciiAlpha asciiDigit)
  | "alpha" => some asciiAlpha
  | "ascii" => some (.range '\x00' '\x7f')
  | "blank" => some (.either (.exactly '\t') (.exactly ' '))
  | "cntrl" => some (.either (.range '\x00' '\x1f') (.exactly '\x7f'))
  | "digit" => some asciiDigit
  | "graph" => some (.range '!' '~')
  | "lower" => some (.range 'a' 'z')
  | "print" => some (.range ' ' '~')
  | "punct" => some asciiPunctuation
  | "space" => some asciiBlank
  | "upper" => some (.range 'A' 'Z')
  | "word" => some asciiWord
  | "xdigit" =>
      some (.either asciiDigit (.either (.range 'a' 'f') (.range 'A' 'F')))
  | _ => none

/-- The name of a property without a leading `is`, without case, and without blanks,
hyphens, underscores and anything that is not ASCII.  Only `isc` keeps its `is`. -/
def propertyName (name : List Char) : String :=
  let lower := name.map Char.toLower
  let bare : List Char :=
    match lower with
    | 'i' :: 's' :: rest => rest
    | _ => lower
  let plain := bare.filter fun char => char ≤ '\x7f' && !" -_".toList.contains char
  if plain == ['c'] && bare.length < lower.length then "isc" else String.ofList plain

private def categorySet? (name : String) : Option CharTest :=
  match name with
  | "any" => some (.not .never)
  | "ascii" => some (.range '\x00' '\x7f')
  | "assigned" => some (.ofTables Text.Category.assigned)
  | "cn" | "unassigned" => some (.not (.ofTables Text.Category.assigned))
  | "cs" | "surrogate" => some .never
  | "c" | "other" =>
      some (.either (.not (.ofTables Text.Category.assigned))
        (.ofTables [Text.Category.control, Text.Category.format, Text.Category.privateUse]))
  | _ => (Text.Category.ofName? name).map .ofTables

/-- The set of a property that is either there or not. -/
private def binarySet? (name : String) : Option CharTest :=
  match name with
  | "alphabetic" | "alpha" => some alphabetic
  | "uppercase" | "upper" => some (.table Text.uppercase)
  | "lowercase" | "lower" => some lowercase
  | "cased" => some cased
  | "xidstart" | "xids" => some (.table Text.identifierStart)
  | "xidcontinue" | "xidc" => some (.table Text.identifierContinue)
  | "graphemeextend" | "grext" => some (.table Text.joining)
  | _ => (Text.BinaryProperty.ofName? name).map .table

def property? (name : List Char) : Option CharTest :=
  let plain := propertyName name
  match binarySet? plain with
  | some test => some test
  | none =>
      match categorySet? plain with
      | some test => some test
      | none => (Text.Script.ofName? plain).map .table

def propertyValue? (name value : List Char) : Option CharTest :=
  let plain := propertyName value
  match propertyName name with
  | "generalcategory" | "gc" => categorySet? plain
  | "script" | "sc" | "scriptextensions" | "scx" =>
      (Text.Script.ofName? plain).map .table
  | _ => none

end CodeGraph.CharTest
