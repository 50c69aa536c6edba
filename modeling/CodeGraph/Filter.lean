import CodeGraph.Filter.Rule

/-!
# Filters

A filter decides which full names are admitted into the graph.  If no list is enabled,
every name is.  If one list is enabled, that list alone decides.  If both are, a name
for which rules of exactly one list hold follows that list, and otherwise the preferred
list decides.  Two lists without any rule admit every name.
-/

namespace CodeGraph

/-- An allow list, a block list, and which of them is preferred. -/
structure Filter where
  preferAllow : Bool := false
  allows : RuleList := RuleList.empty
  blocks : RuleList := RuleList.empty
deriving Inhabited

namespace Filter

/-- The filter without rules. -/
def empty (preferAllow : Bool) : Filter := { preferAllow }

def setPreferAllow (filter : Filter) (preferAllow : Bool) : Filter :=
  { filter with preferAllow }

/-- The filter without allow rules, and with the allow list disabled. -/
def clearAllows (filter : Filter) : Filter := { filter with allows := .empty }

/-- The filter without block rules, and with the block list disabled. -/
def clearBlocks (filter : Filter) : Filter := { filter with blocks := .empty }

def enableAllows (filter : Filter) : Filter :=
  { filter with allows := { filter.allows with enabled := true } }

def enableBlocks (filter : Filter) : Filter :=
  { filter with blocks := { filter.blocks with enabled := true } }

/-- The filter with one more allow rule, and with the allow list enabled. -/
def addAllow (filter : Filter) (rule : Rule) : Filter :=
  { filter.enableAllows with allows := filter.enableAllows.allows.push rule }

/-- The filter with one more block rule, and with the block list enabled. -/
def addBlock (filter : Filter) (rule : Rule) : Filter :=
  { filter.enableBlocks with blocks := filter.enableBlocks.blocks.push rule }

/-- The decision, given which lists are enabled, whether both are without rules, and
whether a rule of each list holds for the name. -/
def decide (preferAllow allowsEnabled blocksEnabled noRules allowed blocked : Bool) :
    Bool :=
  match allowsEnabled, blocksEnabled with
  | false, false => true
  | true, false => allowed
  | false, true => !blocked
  | true, true =>
      if noRules then true
      else
        match allowed, blocked with
        | true, false => true
        | false, true => false
        | _, _ => if preferAllow then allowed else !blocked

def admits (filter : Filter) (name : String) : Bool :=
  decide filter.preferAllow filter.allows.enabled filter.blocks.enabled
    (filter.allows.isEmpty && filter.blocks.isEmpty)
    (filter.allows.anyHolds name) (filter.blocks.anyHolds name)

/-- Adds the rules of a list of texts; the malformed ones are left out and returned. -/
def addRules (add : Filter → Rule → Filter) (filter : Filter) (texts : List String) :
    Filter × List Failure :=
  texts.foldl
    (fun (filter, rejected) text =>
      match Rule.ofText text with
      | .ok rule => (add filter rule, rejected)
      | .error failure => (filter, rejected ++ [failure]))
    (filter, [])

/-- The filter of a configuration: each list is enabled or left out, whatever becomes of
its rules. -/
def ofTexts (preferAllow : Bool) (allows blocks : Option (List String)) :
    Filter × List Failure :=
  let start := empty preferAllow
  let (withAllows, rejectedAllows) :=
    match allows with
    | some texts => addRules addAllow start.enableAllows texts
    | none => (start, [])
  let (withBlocks, rejectedBlocks) :=
    match blocks with
    | some texts => addRules addBlock withAllows.enableBlocks texts
    | none => (withAllows, [])
  (withBlocks, rejectedAllows ++ rejectedBlocks)

end Filter

end CodeGraph
