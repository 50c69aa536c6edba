import CodeGraph.Json
import CodeGraph.OrderedMap
import CodeGraph.Text.Quoted
import CodeGraph.Number.Shortest

/-!
# Property values

What a node or a relationship of the graph stores under a name.  Two values agree
when they are equal, numbers being compared by value: a value that contains a
number that is not a number does not even agree with itself.
-/

namespace CodeGraph

inductive PropertyValue where
  | null
  | bool (value : Bool)
  | int (value : Int64)
  | float (value : Binary64)
  | text (value : String)
  | list (items : List PropertyValue)
deriving Repr, Inhabited

/-- The properties of a node or a relationship, in the order of insertion. -/
abbrev Properties := OrderedMap PropertyValue

namespace PropertyValue

mutual

/-- Are two values the same, floating-point numbers compared by word? -/
def identical : PropertyValue → PropertyValue → Bool
  | .null, .null => true
  | .bool left, .bool right => left == right
  | .int left, .int right => left == right
  | .float left, .float right => left == right
  | .text left, .text right => left == right
  | .list left, .list right => identicalLists left right
  | _, _ => false

def identicalLists : List PropertyValue → List PropertyValue → Bool
  | [], [] => true
  | left :: lefts, right :: rights => identical left right && identicalLists lefts rights
  | _, _ => false

end

mutual

theorem identical_iff : ∀ left right : PropertyValue,
    identical left right = true ↔ left = right
  | .list left, right => by
      cases right <;> simp [identical, identicalLists_iff left]
  | .null, right => by cases right <;> simp [identical]
  | .bool _, right => by cases right <;> simp [identical]
  | .int _, right => by cases right <;> simp [identical]
  | .float _, right => by cases right <;> simp [identical]
  | .text _, right => by cases right <;> simp [identical]

theorem identicalLists_iff : ∀ left right : List PropertyValue,
    identicalLists left right = true ↔ left = right
  | [], right => by cases right <;> simp [identicalLists]
  | left :: lefts, right => by
      cases right <;> simp [identicalLists, identical_iff left, identicalLists_iff lefts]

end

instance : DecidableEq PropertyValue := fun left right =>
  decidable_of_iff _ (identical_iff left right)

mutual

def agrees : PropertyValue → PropertyValue → Bool
  | .null, .null => true
  | .bool left, .bool right => left == right
  | .int left, .int right => left == right
  | .float left, .float right => left.sameValue right
  | .text left, .text right => left == right
  | .list left, .list right => agreesLists left right
  | _, _ => false

/-- Do two lists of values agree, item by item? -/
def agreesLists : List PropertyValue → List PropertyValue → Bool
  | [], [] => true
  | left :: lefts, right :: rights => agrees left right && agreesLists lefts rights
  | _, _ => false

end

def fitsInt64 (value : Int) : Bool :=
  Int64.minValue.toInt ≤ value && value ≤ Int64.maxValue.toInt

/-- The floating-point number nearest to an integer. -/
def floatOfInt (value : Int) : Binary64 :=
  Binary64.ofDecimal (value < 0) value.natAbs 0

mutual

/-- The property value of a structured value.  A map is none, nor is a list that
contains one. -/
def ofJson? : Json → Option PropertyValue
  | .null => some .null
  | .bool value => some (.bool value)
  | .int value =>
      some (if fitsInt64 value then .int (Int64.ofInt value)
        else .float (floatOfInt value))
  | .float value => some (.float value)
  | .text value => some (.text value)
  | .list items => (ofJsonList? items).map .list
  | .map _ => none

/-- The property values of a list of structured values, if all have one. -/
def ofJsonList? : List Json → Option (List PropertyValue)
  | [] => some []
  | item :: items =>
      match ofJson? item, ofJsonList? items with
      | some value, some values => some (value :: values)
      | _, _ => none

end

def asText? : PropertyValue → Option String
  | .text value => some value
  | _ => none

mutual

/-- The value as text: numbers in positional notation, texts in quotes. -/
def render : PropertyValue → String
  | .null => "null"
  | .bool value => if value then "true" else "false"
  | .int value => toString value.toInt
  | .float value => value.render
  | .text value => Text.quoted value
  | .list items => "[" ++ renderItems items ++ "]"

/-- The items of a list, separated by commas. -/
def renderItems : List PropertyValue → String
  | [] => ""
  | [item] => render item
  | item :: items => render item ++ ", " ++ renderItems items

end

end PropertyValue

end CodeGraph
