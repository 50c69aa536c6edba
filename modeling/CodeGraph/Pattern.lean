import CodeGraph.Text.CaseFold

/-!
# Patterns

A pattern describes sets of stretches of a text.  `Matches` says which stretches those
are; `reach` computes, from the positions where a match may start, the positions where
it may end.  Lists of positions are kept in ascending order.
-/

namespace CodeGraph

/-- A set of characters, as patterns write them. -/
inductive CharTest where
  | never
  | range (first last : Char)
  | table (set : Text.CharSet)
  | either (left right : CharTest)
  | both (left right : CharTest)
  | not (test : CharTest)
  /-- The characters that differ in case only from one in the set. -/
  | folded (test : CharTest)
deriving Inhabited

namespace CharTest

def accepts : CharTest → Char → Bool
  | never, _ => false
  | range first last, char => first ≤ char && char ≤ last
  | table set, char => set.contains char
  | either left right, char => left.accepts char || right.accepts char
  | both left right, char => left.accepts char && right.accepts char
  | not test, char => !test.accepts char
  | folded test, char => (Text.caseOrbit char).any test.accepts

def exactly (char : Char) : CharTest := range char char

def ofTables (tables : List Text.CharSet) : CharTest :=
  tables.foldl (fun test set => either test (table set)) never

end CharTest

/-- A condition on a position between two characters. -/
inductive Boundary where
  | textStart
  | textEnd
  | lineStart
  | lineEnd
  /-- Line boundaries where a carriage return ends a line too. -/
  | returnLineStart
  | returnLineEnd
  | word (isWord : CharTest)
  | notWord (isWord : CharTest)
  | wordStart (isWord : CharTest)
  | wordEnd (isWord : CharTest)
  | wordStartHalf (isWord : CharTest)
  | wordEndHalf (isWord : CharTest)

inductive Pattern where
  | empty
  | oneOf (test : CharTest)
  | check (boundary : Boundary)
  | seq (first second : Pattern)
  | either (left right : Pattern)
  /-- At least `least` times, and at most `most` times more if that is given. -/
  | repeated (body : Pattern) (least : Nat) (more : Option Nat)
deriving Inhabited

namespace Boundary

/-- Does the condition hold between two characters, either of which may be missing? -/
def holds (before after : Option Char) : Boundary → Bool
  | textStart => before.isNone
  | textEnd => after.isNone
  | lineStart => before.all (· == '\n')
  | lineEnd => after.all (· == '\n')
  | returnLineStart =>
      match before with
      | none => true
      | some '\n' => true
      | some '\r' => after != some '\n'
      | some _ => false
  | returnLineEnd =>
      match after with
      | none => true
      | some '\r' => true
      | some '\n' => before != some '\r'
      | some _ => false
  | word isWord => before.any isWord.accepts != after.any isWord.accepts
  | notWord isWord => before.any isWord.accepts == after.any isWord.accepts
  | wordStart isWord => !before.any isWord.accepts && after.any isWord.accepts
  | wordEnd isWord => before.any isWord.accepts && !after.any isWord.accepts
  | wordStartHalf isWord => !before.any isWord.accepts
  | wordEndHalf isWord => !after.any isWord.accepts

def holdsAt (boundary : Boundary) (text : Array Char) (position : Nat) : Bool :=
  boundary.holds (if position = 0 then none else text[position - 1]?) text[position]?

end Boundary

namespace Pattern

/-- The stretches of a text that a pattern describes, from one position to another. -/
inductive Matches (text : Array Char) : Pattern → Nat → Nat → Prop where
  | empty {position : Nat} : Matches text .empty position position
  | oneOf {test : CharTest} {position : Nat} {char : Char}
      (found : text[position]? = some char) (accepted : test.accepts char = true) :
      Matches text (.oneOf test) position (position + 1)
  | check {boundary : Boundary} {position : Nat}
      (holds : boundary.holdsAt text position = true) :
      Matches text (.check boundary) position position
  | seq {first second : Pattern} {start middle finish : Nat}
      (one : Matches text first start middle) (two : Matches text second middle finish) :
      Matches text (.seq first second) start finish
  | left {left right : Pattern} {start finish : Nat}
      (one : Matches text left start finish) :
      Matches text (.either left right) start finish
  | right {left right : Pattern} {start finish : Nat}
      (one : Matches text right start finish) :
      Matches text (.either left right) start finish
  | least {body : Pattern} {least : Nat} {more : Option Nat} {start middle finish : Nat}
      (one : Matches text body start middle)
      (others : Matches text (.repeated body least more) middle finish) :
      Matches text (.repeated body (least + 1) more) start finish
  | enough {body : Pattern} {more : Option Nat} {position : Nat} :
      Matches text (.repeated body 0 more) position position
  | further {body : Pattern} {more : Nat} {start middle finish : Nat}
      (one : Matches text body start middle)
      (others : Matches text (.repeated body 0 (some more)) middle finish) :
      Matches text (.repeated body 0 (some (more + 1))) start finish
  | unbounded {body : Pattern} {start middle finish : Nat}
      (one : Matches text body start middle)
      (others : Matches text (.repeated body 0 none) middle finish) :
      Matches text (.repeated body 0 none) start finish

def union : List Nat → List Nat → List Nat
  | [], right => right
  | left, [] => left
  | left :: lefts, right :: rights =>
      if left < right then left :: union lefts (right :: rights)
      else if right < left then right :: union (left :: lefts) rights
      else left :: union lefts rights
termination_by left right => left.length + right.length

/-- The positions in the first of two ascending lists only. -/
def difference : List Nat → List Nat → List Nat
  | [], _ => []
  | left, [] => left
  | left :: lefts, right :: rights =>
      if left < right then left :: difference lefts (right :: rights)
      else if right < left then difference (left :: lefts) rights
      else difference lefts rights
termination_by left right => left.length + right.length

def steps (step : List Nat → List Nat) : Nat → List Nat → List Nat
  | 0, positions => positions
  | count + 1, positions => steps step count (step positions)

/-- Adds what a step reaches, a number of times or until nothing new is reached: only
the positions reached last need another step. -/
def grow (step : List Nat → List Nat) : Nat → List Nat → List Nat → List Nat
  | 0, _, seen => seen
  | count + 1, latest, seen =>
      match difference (step latest) seen with
      | [] => seen
      | new => grow step count new (union seen new)

def reach (text : Array Char) : Pattern → List Nat → List Nat
  | empty, starts => starts
  | oneOf test, starts =>
      (starts.filter fun position => text[position]?.any test.accepts).map (· + 1)
  | check condition, starts => starts.filter (condition.holdsAt text)
  | seq first second, starts => reach text second (reach text first starts)
  | either left right, starts => union (reach text left starts) (reach text right starts)
  | repeated body least more, starts =>
      let enough := steps (reach text body) least starts
      let bound := text.size + 1
      grow (reach text body) (min (more.getD bound) bound) enough enough

def occursIn (pattern : Pattern) (text : String) : Bool :=
  let chars := text.toList.toArray
  !(pattern.reach chars (List.range (chars.size + 1))).isEmpty

end Pattern

end CodeGraph
