import CodeGraph.Filter.Rule
import CodeGraph.Proofs.Pattern.Brackets
import CodeGraph.Proofs.Pattern.Matching

/-!
# Rules for whole names

A rule whose text is a pattern by itself holds for the names that the pattern describes from their
first character to their last.  Anchors do not hold a text together that is no pattern: its brackets
may close the ones around it.
-/

namespace CodeGraph

namespace Pattern

variable {text : Array Char} {position : Nat}

theorem holdsAt_textStart (inside : position ≤ text.size) :
    Boundary.textStart.holdsAt text position = true ↔ position = 0 := by
  unfold Boundary.holdsAt Boundary.holds
  by_cases first : position = 0
  · simp [first]
  · have before : position - 1 < text.size := by omega
    simp [first, before]

theorem holdsAt_textEnd (inside : position ≤ text.size) :
    Boundary.textEnd.holdsAt text position = true ↔ position = text.size := by
  simp only [Boundary.holdsAt, Boundary.holds, Option.isNone_iff_eq_none,
    Array.getElem?_eq_none_iff]
  omega

/-- Between anchors, only the whole text is left of what a pattern describes. -/
theorem Matches.anchored_iff {pattern : Pattern} {start finish : Nat} (inside : start ≤ text.size) :
    Matches text (anchored pattern) start finish ↔
      start = 0 ∧ finish = text.size ∧ Matches text pattern 0 text.size := by
  constructor
  · intro whole
    cases whole with | seq first others =>
    cases first with | check atStart =>
    cases others with | seq one last =>
    cases last with | seq second none =>
    cases second with | check atEnd =>
    cases none
    cases (holdsAt_textStart inside).mp atStart
    cases (holdsAt_textEnd (one.finish_le_size inside)).mp atEnd
    exact ⟨rfl, rfl, one⟩
  · rintro ⟨rfl, rfl, one⟩
    refine .seq (.check ((holdsAt_textStart inside).mpr rfl)) (.seq one (.seq (.check ?_) .empty))
    exact (holdsAt_textEnd (Nat.le_refl _)).mpr rfl

theorem anchored_occursIn_iff (pattern : Pattern) (name : String) :
    (anchored pattern).occursIn name = true ↔
      Matches name.toList.toArray pattern 0 name.toList.length := by
  rw [occursIn_iff]
  constructor
  · rintro ⟨start, finish, inside, whole⟩
    exact ((Matches.anchored_iff inside).mp whole).2.2
  · intro whole
    exact ⟨0, _, Nat.zero_le _, (Matches.anchored_iff (Nat.zero_le _)).mpr ⟨rfl, rfl, whole⟩⟩

end Pattern

namespace Rule

/-- A text that is a pattern is a rule for the whole names that the pattern describes, or no rule if
a comment has taken in the closing anchor. -/
theorem holds_iff_matches_whole (source : String) (pattern : Pattern)
    (alone : Pattern.ofText? source = some pattern) :
    (∀ rule, Rule.ofPattern source = .ok rule →
      ∀ name, rule.holds name = true ↔
        Pattern.Matches name.toList.toArray pattern 0 name.toList.length) ∧
    ('#' ∉ source.toList → ∃ rule, Rule.ofPattern source = .ok rule) := by
  rcases Pattern.ofText?_anchored alone with accepted | ⟨comment, refused⟩
  · have read : Rule.ofPattern source = .ok (.pattern source (.anchored pattern)) := by
      rw [Rule.ofPattern, accepted]
    refine ⟨fun rule same name => ?_, fun _ => ⟨_, read⟩⟩
    cases read.symm.trans same
    exact Pattern.anchored_occursIn_iff pattern name
  · refine ⟨fun rule read => ?_, fun uncommented => absurd comment uncommented⟩
    rw [Rule.ofPattern, refused] at read
    cases read

/-- The shorter alternative comes first, and still the whole name must be described. -/
theorem holds_iff_matches_whole_alternatives :
    ∃ pattern rule, Pattern.ofText? "a|ab" = some pattern ∧ Rule.ofPattern "a|ab" = .ok rule ∧
      (∀ name, rule.holds name = true ↔
        Pattern.Matches name.toList.toArray pattern 0 name.toList.length) ∧
      rule.holds "ab" = true ∧ rule.holds "abb" = false := by
  obtain ⟨pattern, alone⟩ : ∃ pattern, Pattern.ofText? "a|ab" = some pattern :=
    Option.isSome_iff_exists.mp (by decide +kernel)
  obtain ⟨whole, accepted⟩ := holds_iff_matches_whole "a|ab" pattern alone
  obtain ⟨rule, read⟩ := accepted (by decide +kernel)
  have decisions : (Rule.ofPattern "a|ab").toOption.all
      (fun rule => rule.holds "ab" && !rule.holds "abb") = true := by decide +kernel
  rw [read] at decisions
  obtain ⟨held, refused⟩ := Bool.and_eq_true_iff.mp decisions
  exact ⟨pattern, rule, alone, read, whole rule read, held, by simpa using refused⟩

/-- A text that is no pattern may still be one between the anchors, where its brackets close the
ones around it.  One anchor is then missing on either side. -/
theorem not_holds_iff_matches_whole_unbalanced :
    Pattern.ofText? "a)|(b" = none ∧
      ∃ rule, Rule.ofPattern "a)|(b" = .ok rule ∧ rule.holds "ax" = true ∧
        rule.holds "xb" = true := by
  have refused : (Pattern.ofText? "a)|(b").isNone = true := by decide +kernel
  have decisions : (Rule.ofPattern "a)|(b").toOption.any
      (fun rule => rule.holds "ax" && rule.holds "xb") = true := by decide +kernel
  refine ⟨Option.isNone_iff_eq_none.mp refused, ?_⟩
  cases read : Rule.ofPattern "a)|(b" with
  | error failure =>
    rw [read] at decisions
    cases decisions
  | ok rule =>
    rw [read] at decisions
    exact ⟨rule, rfl, Bool.and_eq_true_iff.mp decisions⟩

end Rule

end CodeGraph
