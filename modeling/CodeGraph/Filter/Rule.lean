import CodeGraph.Failure
import CodeGraph.Pattern.Reader

/-!
# Rules

A rule is a test of full names.  A literal rule, written with a leading `@`, holds for
the names that start with its text; any other rule is a pattern that must describe
the name from its start to its end.
-/

namespace CodeGraph

inductive Rule where
  | literal (start : String)
  /-- A pattern as it was given, and the pattern with its anchors. -/
  | pattern (source : String) (anchored : Pattern)

namespace Rule

/-- A pattern rule, unless the text is not a pattern between its anchors. -/
def ofPattern (source : String) : Except Failure Rule :=
  match Pattern.ofText? ("^(?:" ++ source ++ ")$") with
  | some anchored => .ok (.pattern source anchored)
  | none => .error (.invalidRule source)

def ofText (text : String) : Except Failure Rule :=
  match text.toList with
  | '@' :: start => .ok (.literal (String.ofList start))
  | _ => ofPattern text

def holds (rule : Rule) (name : String) : Bool :=
  match rule with
  | literal start => start.toList.isPrefixOf name.toList
  | pattern _ anchored => anchored.occursIn name

def render : Rule → String
  | literal start => "@" ++ start
  | pattern source _ => source

end Rule

/-- Rules in order, and whether they take part in decisions. -/
structure RuleList where
  enabled : Bool := false
  rules : List Rule := []

namespace RuleList

/-- The list that holds no rules and takes no part. -/
def empty : RuleList := {}

instance : Inhabited RuleList := ⟨empty⟩

def enabledWith (rules : List Rule) : RuleList := ⟨true, rules⟩

def push (list : RuleList) (rule : Rule) : RuleList :=
  { list with rules := list.rules ++ [rule] }

/-- Does the list hold no rules? -/
def isEmpty (list : RuleList) : Bool := list.rules.isEmpty

/-- The first rule that holds for a name. -/
def find? (list : RuleList) (name : String) : Option Rule :=
  list.rules.find? (·.holds name)

def anyHolds (list : RuleList) (name : String) : Bool := (list.find? name).isSome

end RuleList

end CodeGraph
