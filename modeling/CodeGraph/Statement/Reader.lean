import CodeGraph.Statement.Clause
import CodeGraph.Statement.Token

/-!
# Reading statements

A reader goes over a list of tokens.  It succeeds, or it misses and may be tried
another way, or it fails for good once a clause has been recognised by its keyword.
Missing or failing, it says where it stood: a single token that does not fit counts
as read.

The grammar, with keywords in any case:

* statement: clauses, each followed by any number of `;`, and `;` in front of them
* clause: `MERGE` pattern, `CREATE` pattern, `MATCH` nodes, `SET` items,
  `DELETE` names, `DETACH DELETE` names
* pattern: a node, or node `-` relationship `->` node
* node: `(` name? (`:` label)? properties? `)`
* relationship: `[` name? `:` type properties? `]`
* properties: `{` (key `:` value, separated by `,`)? `}`
* item: name `+=` value, or name `.` key `=` value
* value: a parameter, a string, a number, `true`, `false` or `null`
-/

namespace CodeGraph

inductive Outcome (α : Type) where
  | done (value : α) (rest : List Token)
  | missed (stand : List Token)
  /-- Nothing else is tried. -/
  | failed (stand : List Token)
deriving Repr

/-- A reader of values of type `α`. -/
def Reader (α : Type) : Type := List Token → Outcome α

namespace Reader

variable {α β : Type}

instance : Monad Reader where
  pure value := fun tokens => .done value tokens
  bind reader next := fun tokens =>
    match reader tokens with
    | .done value rest => next value rest
    | .missed stand => .missed stand
    | .failed stand => .failed stand

/-- Reads one token that `accept` gives a value to.  A token that does not fit has
been read all the same. -/
def one (accept : Token → Option α) : Reader α
  | [] => .missed []
  | token :: rest =>
      match accept token with
      | some value => .done value rest
      | none => .missed rest

def exactly (expected : Token) : Reader Unit :=
  one fun token => if token = expected then some () else none

def mark (char : Char) : Reader Unit := exactly (.mark char)

/-- Makes every miss final. -/
def commit (reader : Reader α) : Reader α := fun tokens =>
  match reader tokens with
  | .missed stand => .failed stand
  | outcome => outcome

/-- Tries the second reader where the first one misses. -/
def orElse (first second : Reader α) : Reader α := fun tokens =>
  match first tokens with
  | .missed _ => second tokens
  | outcome => outcome

/-- Reads something or, where that misses, nothing. -/
def optional (reader : Reader α) : Reader (Option α) := fun tokens =>
  match reader tokens with
  | .done value rest => .done (some value) rest
  | .missed _ => .done none tokens
  | .failed stand => .failed stand

/-- Reads items until one misses, at most `fuel` of them. -/
def manyWithin (item : Reader α) : Nat → Reader (List α)
  | 0 => fun tokens => .done [] tokens
  | fuel + 1 => fun tokens =>
      match item tokens with
      | .missed _ => .done [] tokens
      | .failed stand => .failed stand
      | .done value rest =>
          match manyWithin item fuel rest with
          | .done values after => .done (value :: values) after
          | .missed stand => .missed stand
          | .failed stand => .failed stand

/-- Reads items until one misses.  An item takes at least one token. -/
def many (item : Reader α) : Reader (List α) := fun tokens =>
  manyWithin item tokens.length tokens

/-- Reads one item and then items until one misses. -/
def many1 (item : Reader α) : Reader (List α) := do
  let first ← item
  let others ← many item
  return first :: others

def separated1 (item : Reader α) (separator : Reader Unit) : Reader (List α) := do
  let first ← item
  let others ← many (do separator; item)
  return first :: others

/-- Reads items with separators between them, possibly none. -/
def separated (item : Reader α) (separator : Reader Unit) : Reader (List α) :=
  orElse (separated1 item separator) (pure [])

end Reader

namespace Grammar

open Reader

def sameWord (left right : String) : Bool :=
  left.toList.map Char.toLower == right.toList.map Char.toLower

/-- A keyword, in any case. -/
def keyword (word : String) : Reader Unit :=
  one fun
    | .word name => if sameWord name word then some () else none
    | _ => none

def name : Reader String :=
  one fun
    | .word name => some name
    | _ => none

def expression? : Token → Option Expression
  | .parameter name => some (.parameter name)
  | .text value => some (.value (.text value))
  | .int value => some (.value (.int value))
  | .float value => some (.value (.float value))
  | .word name =>
      if sameWord name "true" then some (.value (.bool true))
      else if sameWord name "false" then some (.value (.bool false))
      else if sameWord name "null" then some (.value .null)
      else none
  | _ => none

def expression : Reader Expression := one expression?

/-- One property: its key and its value. -/
def property : Reader (String × Expression) := do
  let key ← name
  mark ':'
  let value ← expression
  return (key, value)

def bracedProperties : Reader PatternProperties := do
  mark '\x7b'
  let entries ← separated property (mark ',')
  mark '\x7d'
  return entries

/-- Properties in curly brackets, or none. -/
def properties : Reader PatternProperties := do
  let entries ← optional bracedProperties
  return entries.getD []

/-- A name after a colon. -/
def afterColon : Reader String := do
  mark ':'
  name

def node : Reader NodePattern := do
  mark '('
  let variableName ← optional name
  let label ← optional afterColon
  let entries ← properties
  mark ')'
  return { name := variableName, label, properties := entries }

def relation : Reader RelationPattern := do
  mark '['
  let variableName ← optional name
  let type ← afterColon
  let entries ← properties
  mark ']'
  return { name := variableName, type, properties := entries }

/-- The part of a path after its first node; after the dash there is no way back. -/
def pathTail : Reader (RelationPattern × NodePattern) := do
  mark '-'
  commit do
    let edge ← relation
    exactly .arrow
    let target ← node
    return (edge, target)

def pattern : Reader GraphPattern := do
  let source ← node
  match ← optional pathTail with
  | none => return .node source
  | some (edge, target) => return .path source edge target

def setItem : Reader Clause := do
  let target ← name
  orElse
    (do
      exactly .plusEquals
      let map ← expression
      return .setAll target map)
    (do
      mark '.'
      let key ← name
      mark '='
      let value ← expression
      return .setOne target key value)

def deleted (detach : Bool) : Reader (List Clause) := do
  let names ← separated1 name (mark ',')
  return [.delete names detach]

def clause : Reader (List Clause) :=
  orElse (do keyword "MERGE"; commit (do return [.merge (← pattern)])) <|
  orElse (do keyword "CREATE"; commit (do return [.create (← pattern)])) <|
  orElse
    (do keyword "MATCH"; commit (do return [.select (← separated1 node (mark ','))])) <|
  orElse (do keyword "SET"; commit (separated1 setItem (mark ','))) <|
  orElse (do keyword "DETACH"; keyword "DELETE"; commit (deleted true)) <|
  (do keyword "DELETE"; commit (deleted false))

def semicolons : Reader Unit := do
  let _ ← many (mark ';')
  return ()

def statement : Reader (List Clause) := do
  semicolons
  let groups ← many1 (do
    let clauses ← clause
    semicolons
    return clauses)
  return groups.flatten

end Grammar

inductive ReadFault where
  | unexpected (token : Token) (position : Nat)
  | unexpectedEnd
deriving DecidableEq, Repr

def ReadFault.before (tokens stand : List Token) : ReadFault :=
  match stand with
  | [] => .unexpectedEnd
  | token :: _ => .unexpected token (tokens.length - stand.length)

/-- The clauses of a list of tokens, all of which must be used. -/
def Clause.ofTokens (tokens : List Token) : Except ReadFault (List Clause) :=
  match Grammar.statement tokens with
  | .done clauses [] => .ok clauses
  | .done _ rest => .error (.before tokens rest)
  | .missed stand => .error (.before tokens stand)
  | .failed stand => .error (.before tokens stand)

/-- What is said about a list of tokens without clauses. -/
def ReadFault.message : ReadFault → String
  | unexpected token position =>
      "unexpected " ++ token.describe ++ " at token " ++ toString position
  | unexpectedEnd => "unexpected end of statement"

end CodeGraph
