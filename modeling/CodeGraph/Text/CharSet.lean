import CodeGraph.Text.Blank
import CodeGraph.Text.Digits

/-!
# Sets of characters

A set of characters is a table of runs of code points.  Tables are written as text:
`41-5A` is a run, `100-136/2` is every second code point of a run, and `AA` is a
single code point, all in hexadecimal with capital letters.
-/

namespace CodeGraph.Text

/-- Every `step`-th code point from `first` to `last`. -/
structure CharRun where
  first : Nat
  last : Nat
  step : Nat
deriving DecidableEq, Repr, Inhabited

namespace CharRun

def contains (run : CharRun) (code : Nat) : Bool :=
  run.first ≤ code && code ≤ run.last && (code - run.first) % run.step == 0

def ofWord (word : List Char) : CharRun :=
  let range := word.takeWhile (· != '/')
  let step := word.drop (range.length + 1)
  let first := range.takeWhile (· != '-')
  let last := range.drop (first.length + 1)
  { first := natOfDigits 16 first
    last := natOfDigits 16 (if last.isEmpty then first else last)
    step := if step.isEmpty then 1 else natOfDigits 16 step }

end CharRun

/-- A set of characters, given by runs of code points. -/
structure CharSet where
  runs : Array CharRun
deriving Inhabited

namespace CharSet

def contains (set : CharSet) (char : Char) : Bool :=
  set.runs.any (·.contains char.toNat)

def ofText (text : String) : CharSet := ⟨((words text.toList).map .ofWord).toArray⟩

end CharSet

end CodeGraph.Text
