import CodeGraph.Settings
import Mathlib.Data.Set.Basic

/-!
# The policy of a filter

Which names a filter admits follows from the list that is preferred, the lists that are enabled,
and the sets of rules in them.  So neither the order of the rules nor how often one stands there
counts, and a list that has rules already only grows stronger by another one.
-/

namespace CodeGraph

/-! ## The policy -/

/-- Does a rule of the set hold for the name? -/
def Describes (rules : Set Rule) (name : String) : Prop := ∃ rule ∈ rules, rule.holds name = true

/-- When a name is admitted, given the rules of the two lists, each if it is enabled. -/
inductive Policy (preferAllow : Bool) (name : String) :
    Option (Set Rule) → Option (Set Rule) → Prop where
  | unfiltered : Policy preferAllow name none none
  | allowed {allows : Set Rule} : Describes allows name →
      Policy preferAllow name (some allows) none
  | notBlocked {blocks : Set Rule} : ¬ Describes blocks name →
      Policy preferAllow name none (some blocks)
  | withoutRules : Policy preferAllow name (some ∅) (some ∅)
  | allowedOnly {allows blocks : Set Rule} : Describes allows name → ¬ Describes blocks name →
      Policy preferAllow name (some allows) (some blocks)
  | both {allows blocks : Set Rule} : preferAllow = true →
      Describes allows name → Describes blocks name →
      Policy preferAllow name (some allows) (some blocks)
  | neither {allows blocks : Set Rule} : preferAllow = false →
      ¬ Describes allows name → ¬ Describes blocks name →
      Policy preferAllow name (some allows) (some blocks)

namespace RuleList

def ruleSet (list : RuleList) : Set Rule := {rule | rule ∈ list.rules}

/-- The rules of the list, if it is enabled. -/
def inForce (list : RuleList) : Option (Set Rule) :=
  if list.enabled then some list.ruleSet else none

theorem anyHolds_iff (list : RuleList) (name : String) :
    list.anyHolds name = true ↔ Describes list.ruleSet name := by
  rw [anyHolds, find?, List.find?_isSome]
  rfl

theorem isEmpty_iff (list : RuleList) : list.isEmpty = true ↔ list.ruleSet = ∅ := by
  rw [isEmpty, List.isEmpty_iff, List.eq_nil_iff_forall_not_mem, Set.eq_empty_iff_forall_notMem]
  rfl

end RuleList

theorem Policy.allows_iff {preferAllow : Bool} {name : String} {allows : Set Rule} :
    Policy preferAllow name (some allows) none ↔ Describes allows name := by
  refine ⟨fun admitted => ?_, .allowed⟩
  cases admitted with
  | allowed allowed => exact allowed

theorem Policy.blocks_iff {preferAllow : Bool} {name : String} {blocks : Set Rule} :
    Policy preferAllow name none (some blocks) ↔ ¬ Describes blocks name := by
  refine ⟨fun admitted => ?_, .notBlocked⟩
  cases admitted with
  | notBlocked free => exact free

/-- With both lists enabled, only two lists without rules do not go by what holds. -/
theorem Policy.both_iff {preferAllow : Bool} {name : String} {allows blocks : Set Rule} :
    Policy preferAllow name (some allows) (some blocks) ↔
      (allows = ∅ ∧ blocks = ∅) ∨ (Describes allows name ∧ ¬ Describes blocks name) ∨
        (preferAllow = true ∧ Describes allows name ∧ Describes blocks name) ∨
        (preferAllow = false ∧ ¬ Describes allows name ∧ ¬ Describes blocks name) := by
  constructor
  · intro admitted
    cases admitted with
    | withoutRules => exact .inl ⟨rfl, rfl⟩
    | allowedOnly allowed free => exact .inr (.inl ⟨allowed, free⟩)
    | both preferred allowed blocked => exact .inr (.inr (.inl ⟨preferred, allowed, blocked⟩))
    | neither preferred notAllowed free =>
        exact .inr (.inr (.inr ⟨preferred, notAllowed, free⟩))
  · rintro (⟨rfl, rfl⟩ | ⟨allowed, free⟩ | ⟨preferred, allowed, blocked⟩ |
      ⟨preferred, notAllowed, free⟩)
    · exact .withoutRules
    · exact .allowedOnly allowed free
    · exact .both preferred allowed blocked
    · exact .neither preferred notAllowed free

namespace Filter

theorem admits_iff (filter : Filter) (name : String) :
    filter.admits name = true ↔
      Policy filter.preferAllow name filter.allows.inForce filter.blocks.inForce := by
  have allowed := filter.allows.anyHolds_iff name
  have blocked := filter.blocks.anyHolds_iff name
  unfold admits decide RuleList.inForce
  cases filter.allows.enabled <;> cases filter.blocks.enabled
  case false.false => exact iff_of_true rfl .unfiltered
  case true.false => exact allowed.trans Policy.allows_iff.symm
  case false.true =>
    rw [Bool.not_eq_true', ← Bool.not_eq_true, blocked]
    exact Policy.blocks_iff.symm
  case true.true =>
    simp only [reduceIte, Policy.both_iff, ← allowed, ← blocked, ← RuleList.isEmpty_iff,
      ← Bool.and_eq_true]
    cases filter.allows.isEmpty && filter.blocks.isEmpty <;>
      cases filter.allows.anyHolds name <;> cases filter.blocks.anyHolds name <;>
      cases filter.preferAllow <;> decide

/-! ## Rules from texts -/

/-- The rules that a list of texts has, without the texts that are malformed. -/
def rulesOf (texts : List String) : List Rule :=
  texts.filterMap fun text => (Rule.ofText text).toOption

theorem fst_addRules (add : Filter → Rule → Filter) (filter : Filter) (texts : List String) :
    (addRules add filter texts).1 = (rulesOf texts).foldl add filter := by
  unfold addRules
  generalize start : (filter, ([] : List Failure)) = before
  obtain rfl : filter = before.1 := congrArg Prod.fst start
  clear start
  induction texts generalizing before with
  | nil => rfl
  | cons text texts induction =>
      obtain ⟨filter, rejected⟩ := before
      rw [List.foldl_cons, rulesOf, List.filterMap_cons]
      cases Rule.ofText text with
      | ok rule => exact induction (add filter rule, rejected)
      | error failure => exact induction (filter, rejected ++ [failure])

theorem foldl_addAllow (filter : Filter) (rules : List Rule) :
    rules.foldl addAllow filter.enableAllows =
      { filter with allows := ⟨true, filter.allows.rules ++ rules⟩ } := by
  induction rules generalizing filter with
  | nil =>
      rw [List.append_nil]
      rfl
  | cons rule rules induction =>
      rw [List.foldl_cons, ← List.singleton_append, ← List.append_assoc]
      exact induction { filter with allows := filter.allows.push rule }

theorem foldl_addBlock (filter : Filter) (rules : List Rule) :
    rules.foldl addBlock filter.enableBlocks =
      { filter with blocks := ⟨true, filter.blocks.rules ++ rules⟩ } := by
  induction rules generalizing filter with
  | nil =>
      rw [List.append_nil]
      rfl
  | cons rule rules induction =>
      rw [List.foldl_cons, ← List.singleton_append, ← List.append_assoc]
      exact induction { filter with blocks := filter.blocks.push rule }

/-- The list of a configuration with the rules of its texts, if it takes part. -/
def listOf (texts : Option (List String)) : RuleList :=
  match texts with
  | some texts => .enabledWith (rulesOf texts)
  | none => .empty

theorem fst_ofTexts (preferAllow : Bool) (allows blocks : Option (List String)) :
    (ofTexts preferAllow allows blocks).1 = ⟨preferAllow, listOf allows, listOf blocks⟩ := by
  unfold ofTexts
  cases allows <;> cases blocks <;>
    simp only [fst_addRules, foldl_addAllow, foldl_addBlock] <;> rfl

/-- The rules that texts have, as a set. -/
def compiled (texts : List String) : Set Rule :=
  {rule | ∃ text ∈ texts, Rule.ofText text = .ok rule}

theorem inForce_listOf (texts : Option (List String)) :
    (listOf texts).inForce = texts.map compiled := by
  cases texts with
  | none => rfl
  | some texts =>
      refine congrArg some (Set.ext fun rule => ?_)
      refine List.mem_filterMap.trans (exists_congr fun text => and_congr_right fun _ => ?_)
      cases Rule.ofText text <;> simp [Except.toOption]

end Filter

/-! ## Settings with the same rules -/

/-- The settings differ at most in the order of the rules and in how often each is given. -/
structure Settings.SameRules (settings other : Settings) : Prop where
  preferAllow : settings.preferAllow = other.preferAllow
  useAllowRules : settings.useAllowRules = other.useAllowRules
  useBlockRules : settings.useBlockRules = other.useBlockRules
  allowRules : ∀ text, text ∈ settings.allowRules ↔ text ∈ other.allowRules
  blockRules : ∀ text, text ∈ settings.blockRules ↔ text ∈ other.blockRules

/-- The rules of a list that take part by the settings. -/
def Settings.inForce (enabled : Bool) (texts : List String) : Option (Set Rule) :=
  if enabled then some (Filter.compiled texts) else none

theorem Settings.admits_filter_iff (settings : Settings) (name : String) :
    settings.filter.1.admits name = true ↔
      Policy settings.preferAllow name (inForce settings.allowEnabled settings.allowRules)
        (inForce settings.blockEnabled settings.blockRules) := by
  rw [Filter.admits_iff, filter, Filter.fst_ofTexts]
  simp only [Filter.inForce_listOf, inForce, apply_ite (Option.map Filter.compiled),
    Option.map_some, Option.map_none]

theorem Settings.isEmpty_congr {texts others : List String}
    (same : ∀ text, text ∈ texts ↔ text ∈ others) : texts.isEmpty = others.isEmpty := by
  rw [Bool.eq_iff_iff, List.isEmpty_iff, List.isEmpty_iff, List.eq_nil_iff_forall_not_mem,
    List.eq_nil_iff_forall_not_mem]
  exact forall_congr' fun text => (same text).not

theorem Filter.compiled_congr {texts others : List String}
    (same : ∀ text, text ∈ texts ↔ text ∈ others) : compiled texts = compiled others :=
  Set.ext fun _ => exists_congr fun text => and_congr_left fun _ => same text

/-! ## One more rule -/

theorem Describes.mono {rules more : Set Rule} {name : String} (subset : rules ⊆ more)
    (describes : Describes rules name) : Describes more name := by
  obtain ⟨rule, isRule, holds⟩ := describes
  exact ⟨rule, subset isRule, holds⟩

/-- More allow rules admit more, unless there were none. -/
theorem Policy.mono_allows {preferAllow : Bool} {name : String} {allows more : Set Rule}
    {blocks : Option (Set Rule)} (filled : allows.Nonempty) (subset : allows ⊆ more)
    (admitted : Policy preferAllow name (some allows) blocks) :
    Policy preferAllow name (some more) blocks := by
  cases admitted with
  | allowed allowed => exact .allowed (allowed.mono subset)
  | withoutRules => exact absurd filled Set.not_nonempty_empty
  | allowedOnly allowed free => exact .allowedOnly (allowed.mono subset) free
  | both preferred allowed blocked => exact .both preferred (allowed.mono subset) blocked
  | neither preferred _ free =>
      by_cases allowed : Describes more name
      · exact .allowedOnly allowed free
      · exact .neither preferred allowed free

/-- Fewer block rules admit more, unless there were none. -/
theorem Policy.anti_blocks {preferAllow : Bool} {name : String} {allows : Option (Set Rule)}
    {blocks more : Set Rule} (filled : blocks.Nonempty) (subset : blocks ⊆ more)
    (admitted : Policy preferAllow name allows (some more)) :
    Policy preferAllow name allows (some blocks) := by
  cases admitted with
  | notBlocked free => exact .notBlocked (mt (Describes.mono subset) free)
  | withoutRules => exact absurd (filled.mono subset) Set.not_nonempty_empty
  | allowedOnly allowed free => exact .allowedOnly allowed (mt (Describes.mono subset) free)
  | both preferred allowed _ =>
      by_cases blocked : Describes blocks name
      · exact .both preferred allowed blocked
      · exact .allowedOnly allowed blocked
  | neither preferred notAllowed free =>
      exact .neither preferred notAllowed (mt (Describes.mono subset) free)

theorem RuleList.ruleSet_nonempty {list : RuleList} (filled : list.rules ≠ []) :
    list.ruleSet.Nonempty := List.exists_mem_of_ne_nil list.rules filled

theorem RuleList.subset_push (list : RuleList) (rule : Rule) :
    list.ruleSet ⊆ (list.push rule).ruleSet := fun _ => List.mem_append_left [rule]

theorem RuleList.inForce_of_enabled {list : RuleList} (enabled : list.enabled = true) :
    list.inForce = some list.ruleSet := if_pos enabled

/-! ## Decisions of filters -/

/-- The filter of a configuration admits the names that the policy admits, given the sets of its
rules that are well formed, and so neither the order of the rules nor how often one is given
counts.  In any filter, one more allow rule never takes a name out, if the allow list is enabled
and has rules, and one more block rule never lets a name in, if the block list is enabled and has
rules. -/
theorem Filter.decides_by_policy :
    (∀ (settings : Settings) (name : String), settings.filter.1.admits name = true ↔
      Policy settings.preferAllow name
        (Settings.inForce settings.allowEnabled settings.allowRules)
        (Settings.inForce settings.blockEnabled settings.blockRules)) ∧
    (∀ settings other : Settings, settings.SameRules other → ∀ name,
      settings.filter.1.admits name = other.filter.1.admits name) ∧
    (∀ (filter : Filter) (rule : Rule) (name : String), filter.allows.enabled = true →
      filter.allows.rules ≠ [] → filter.admits name = true →
        (filter.addAllow rule).admits name = true) ∧
    ∀ (filter : Filter) (rule : Rule) (name : String), filter.blocks.enabled = true →
      filter.blocks.rules ≠ [] → filter.admits name = false →
        (filter.addBlock rule).admits name = false := by
  refine ⟨Settings.admits_filter_iff, ?_, ?_, ?_⟩
  · intro settings other same name
    have sameAllows : settings.allowEnabled = other.allowEnabled := by
      rw [Settings.allowEnabled, same.useAllowRules, Settings.isEmpty_congr same.allowRules]
      rfl
    have sameBlocks : settings.blockEnabled = other.blockEnabled := by
      rw [Settings.blockEnabled, same.useBlockRules, Settings.isEmpty_congr same.blockRules]
      rfl
    rw [Bool.eq_iff_iff, Settings.admits_filter_iff, Settings.admits_filter_iff, Settings.inForce,
      Settings.inForce, same.preferAllow, sameAllows, sameBlocks, compiled_congr same.allowRules,
      compiled_congr same.blockRules]
    rfl
  · intro filter rule name enabled filled admitted
    rw [admits_iff, RuleList.inForce_of_enabled enabled] at admitted
    have more : (filter.addAllow rule).allows.inForce =
        some (filter.enableAllows.allows.push rule).ruleSet := rfl
    rw [admits_iff, more]
    have filled := RuleList.ruleSet_nonempty filled
    exact admitted.mono_allows filled (RuleList.subset_push filter.enableAllows.allows rule)
  · intro filter rule name enabled filled rejected
    rw [← Bool.not_eq_true, admits_iff, RuleList.inForce_of_enabled enabled] at rejected
    have more : (filter.addBlock rule).blocks.inForce =
        some (filter.enableBlocks.blocks.push rule).ruleSet := rfl
    rw [← Bool.not_eq_true, admits_iff, more]
    refine mt (fun admitted => ?_) rejected
    have filled := RuleList.ruleSet_nonempty filled
    exact admitted.anti_blocks filled (RuleList.subset_push filter.enableBlocks.blocks rule)

/-- A malformed rule and a repeated one, in another order, and two rules more. -/
theorem Filter.decides_by_policy_reordered :
    let settings : Settings :=
      { allowRules := ["@com.", "org.(x", "@org."], blockRules := ["@com.b", "@com.a"] }
    let other : Settings :=
      { allowRules := ["@org.", "@com.", "org.(x", "@com."], blockRules := ["@com.a", "@com.b"] }
    let filter := settings.filter.1
    settings.SameRules other ∧ filter.admits "com.c" = true ∧ filter.admits "com.a" = false ∧
      other.filter.1.admits "com.c" = true ∧
      (filter.addAllow (.literal "net.")).admits "com.c" = true ∧
      (filter.addBlock (.literal "net.")).admits "com.a" = false := by
  intro settings other filter
  have same : settings.SameRules other :=
    ⟨rfl, rfl, rfl, by grind, by grind⟩
  have computed : filter.admits "com.c" = true ∧ filter.admits "com.a" = false ∧
      filter.allows.enabled = true ∧ filter.allows.rules.isEmpty = false ∧
      filter.blocks.enabled = true ∧ filter.blocks.rules.isEmpty = false := by
    decide +kernel
  obtain ⟨admitted, rejected, allows, hasAllows, blocks, hasBlocks⟩ := computed
  obtain ⟨-, reordered, moreAllows, moreBlocks⟩ := decides_by_policy
  refine ⟨same, admitted, rejected, (reordered settings other same "com.c").symm.trans admitted,
    moreAllows filter _ _ allows ?_ admitted, moreBlocks filter _ _ blocks ?_ rejected⟩
  · exact List.isEmpty_eq_false_iff.mp hasAllows
  · exact List.isEmpty_eq_false_iff.mp hasBlocks

end CodeGraph
