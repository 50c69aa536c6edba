/-!
# Documents in TOML

A document holds named values and, under headers, tables.  A header names a table once,
or again and again an element of a list of tables.
-/

namespace CodeGraph.Toml

/-- A value.  Numbers with a fraction, dates and times are recognised but not decoded. -/
inductive Value where
  | text (value : String)
  | bool (value : Bool)
  | int (value : Int)
  | float
  | date
  | list (items : List Value)
  /-- A table inside a value or a key; only one that comes from dotted keys is `open`
  to more keys. -/
  | table (isOpen : Bool) (entries : List (String × Value))
deriving Repr, Inhabited

/-- Named values, in order. -/
abbrev Entries := List (String × Value)

/-- The entries below one key, if the key is new or has been made by dotted keys. -/
def Entries.below? (entries : Entries) (key : String) : Option Entries :=
  match entries.lookup key with
  | none => some []
  | some (.table true inner) => some inner
  | some _ => none

def Entries.setBelow (entries : Entries) (key : String) (inner : Entries) : Entries :=
  match entries with
  | [] => [(key, .table true inner)]
  | entry :: rest =>
      if entry.1 = key then (key, .table true inner) :: rest
      else entry :: Entries.setBelow rest key inner

/-- Adds a value under a dotted key.  The last part of a key is not compared with the
keys that are there. -/
def Entries.add? (entries : Entries) (value : Value) : List String → Option Entries
  | [] => none
  | [key] => some (entries ++ [(key, value)])
  | key :: keys => do
      let inner ← Entries.add? (← entries.below? key) value keys
      return entries.setBelow key inner

structure Section where
  header : List String
  isElement : Bool
  entries : Entries := []
deriving Repr, Inhabited

/-! ## Headers -/

/-- The way to a table, name by name, with the number of the element where a name stands
for a list of tables, and 0 where it stands for a table. -/
abbrev TableAddress := List (String × Nat)

namespace TableAddress

/-- How many elements the list of tables with a name has so far. -/
def elements (declared : List TableAddress) (parent : TableAddress) (name : String) : Nat :=
  (declared.filter fun address =>
    address.dropLast = parent &&
      match address.getLast? with
      | some (last, number) => last = name && number ≠ 0
      | none => false).length

/-- The way to the table that a name means below another: of a list of tables, the last
element. -/
def below (declared : List TableAddress) (parent : TableAddress) (name : String) :
    TableAddress :=
  parent ++ [(name, elements declared parent name)]

/-- The address of the table of a header, unless it has been declared before as what it
is not, or as a table at all. -/
def declare? (declared : List TableAddress) (header : List String) (isElement : Bool) :
    Option TableAddress :=
  match header.getLast? with
  | none => none
  | some name =>
      let parent := header.dropLast.foldl (below declared) []
      let count := elements declared parent name
      let asTable := parent ++ [(name, 0)]
      if isElement then
        if declared.any asTable.isPrefixOf then none else some (parent ++ [(name, count + 1)])
      else if count ≠ 0 || declared.contains asTable then none
      else some asTable

end TableAddress

/-- A document: the values in front of the first header, and the tables. -/
structure Document where
  entries : Entries
  sections : List Section
deriving Repr, Inhabited

def Document.headersAgree (document : Document) : Bool :=
  let declare := fun (declared : List TableAddress) (item : Section) =>
    (TableAddress.declare? declared item.header item.isElement).map (declared ++ [·])
  (document.sections.foldlM declare []).isSome

end CodeGraph.Toml
