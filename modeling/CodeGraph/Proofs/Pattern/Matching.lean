import CodeGraph.Pattern
import Mathlib.Data.List.Basic

/-!
# Where patterns match

The positions that are computed for a pattern are those where a stretch that it describes may end.
Repetitions are computed level by level.  Since no stretch goes back, the levels up to the length
of the text are enough.
-/

namespace CodeGraph.Pattern

/-! ## Ascending lists -/

theorem mem_union {position : Nat} {left right : List Nat} :
    position ∈ union left right ↔ position ∈ left ∨ position ∈ right := by
  fun_induction union left right with
  | case1 => simp
  | case2 => simp
  | case3 _ _ _ _ _ induction => simp [induction, or_assoc]
  | case4 _ _ _ _ _ _ induction => simp [induction, or_left_comm]
  | case5 left lefts right rights _ _ induction =>
      have same : left = right := by omega
      simp only [same, List.mem_cons, induction]
      tauto

theorem difference_sublist (left right : List Nat) : (difference left right).Sublist left := by
  fun_induction difference left right with
  | case1 => exact .refl _
  | case2 => exact .refl _
  | case3 _ _ _ _ _ induction => exact induction.cons_cons _
  | case4 _ _ _ _ _ _ induction => exact induction
  | case5 _ _ _ _ _ _ induction => exact induction.cons _

theorem pairwise_union {left right : List Nat} (leftAscends : left.Pairwise (· < ·))
    (rightAscends : right.Pairwise (· < ·)) : (union left right).Pairwise (· < ·) := by
  fun_induction union left right with
  | case1 => exact rightAscends
  | case2 => exact leftAscends
  | case3 left lefts right rights less induction =>
      rw [List.pairwise_cons] at leftAscends
      have rest := List.pairwise_cons.mp rightAscends
      refine List.pairwise_cons.mpr
        ⟨fun position member => ?_, induction leftAscends.2 rightAscends⟩
      rw [mem_union, List.mem_cons] at member
      rcases member with inLefts | rfl | inRights
      · exact leftAscends.1 position inLefts
      · exact less
      · exact Nat.lt_trans less (rest.1 position inRights)
  | case4 left lefts right rights _ less induction =>
      rw [List.pairwise_cons] at rightAscends
      have rest := List.pairwise_cons.mp leftAscends
      refine List.pairwise_cons.mpr
        ⟨fun position member => ?_, induction leftAscends rightAscends.2⟩
      rw [mem_union, List.mem_cons] at member
      rcases member with (rfl | inLefts) | inRights
      · exact less
      · exact Nat.lt_trans less (rest.1 position inLefts)
      · exact rightAscends.1 position inRights
  | case5 left lefts right rights notLess notGreater induction =>
      have same : left = right := by omega
      subst same
      rw [List.pairwise_cons] at leftAscends rightAscends
      refine List.pairwise_cons.mpr
        ⟨fun position member => ?_, induction leftAscends.2 rightAscends.2⟩
      rcases mem_union.mp member with inLefts | inRights
      · exact leftAscends.1 position inLefts
      · exact rightAscends.1 position inRights

theorem mem_difference {position : Nat} {left right : List Nat}
    (leftAscends : left.Pairwise (· < ·)) (rightAscends : right.Pairwise (· < ·)) :
    position ∈ difference left right ↔ position ∈ left ∧ position ∉ right := by
  fun_induction difference left right with
  | case1 => simp
  | case2 => simp
  | case3 left lefts right rights less induction =>
      rw [List.mem_cons, induction (List.pairwise_cons.mp leftAscends).2 rightAscends]
      have above := (List.pairwise_cons.mp rightAscends).1
      have fresh : left ∉ right :: rights := by
        intro member
        rcases List.mem_cons.mp member with same | later
        · omega
        · exact absurd (above left later) (by omega)
      grind
  | case4 left lefts right rights _ less induction =>
      rw [induction leftAscends (List.pairwise_cons.mp rightAscends).2]
      have above := (List.pairwise_cons.mp leftAscends).1
      have fresh : right ∉ left :: lefts := by
        intro member
        rcases List.mem_cons.mp member with same | later
        · omega
        · exact absurd (above right later) (by omega)
      grind
  | case5 left lefts right rights notLess notGreater induction =>
      have same : left = right := by omega
      subst same
      rw [List.pairwise_cons] at leftAscends rightAscends
      rw [induction leftAscends.2 rightAscends.2]
      have fresh : left ∉ lefts := fun member => absurd (leftAscends.1 left member) (by omega)
      grind

/-! ## Stretches one after the other -/

/-- So many steps of a relation, one after the other. -/
inductive Times (relation : Nat → Nat → Prop) : Nat → Nat → Nat → Prop where
  | none {position : Nat} : Times relation 0 position position
  | more {count start middle finish : Nat} : relation start middle →
      Times relation count middle finish → Times relation (count + 1) start finish

section

variable {relation : Nat → Nat → Prop}

theorem times_zero {start finish : Nat} : Times relation 0 start finish ↔ start = finish := by
  constructor
  · intro times
    cases times
    rfl
  · rintro rfl
    exact .none

theorem times_succ {count start finish : Nat} :
    Times relation (count + 1) start finish ↔
      ∃ middle, relation start middle ∧ Times relation count middle finish := by
  constructor
  · intro times
    cases times with
    | more one others => exact ⟨_, one, others⟩
  · rintro ⟨_, one, others⟩
    exact .more one others

/-- If no step goes back, the steps that stay are not needed. -/
theorem Times.shorten (forward : ∀ start finish, relation start finish → start ≤ finish)
    {count start finish : Nat} (times : Times relation count start finish) :
    start ≤ finish ∧
      ∃ fewer, fewer ≤ count ∧ fewer ≤ finish - start ∧ Times relation fewer start finish := by
  induction times with
  | none => exact ⟨Nat.le_refl _, 0, Nat.le_refl _, Nat.zero_le _, .none⟩
  | @more count start middle finish one others induction =>
      have ahead := forward start middle one
      obtain ⟨later, fewer, bound, short, times⟩ := induction
      refine ⟨Nat.le_trans ahead later, ?_⟩
      by_cases stays : start = middle
      · subst stays
        exact ⟨fewer, by omega, short, times⟩
      · exact ⟨fewer + 1, by omega, by omega, .more one times⟩

/-- What is closed under the steps is not left. -/
theorem Times.stays {inside : Nat → Prop}
    (closed : ∀ start finish, relation start finish → inside start → inside finish)
    {count start finish : Nat} (times : Times relation count start finish)
    (starts : inside start) : inside finish := by
  induction times with
  | none => exact starts
  | more one _ induction => exact induction (closed _ _ one starts)

end

section

variable {text : Array Char} {body : Pattern} {start middle finish : Nat}

theorem Matches.exists_times {least : Nat} {more : Option Nat}
    (found : Matches text (.repeated body least more) start finish) :
    ∃ middle, Times (Matches text body) least start middle ∧
      ∃ count, (∀ most ∈ more, count ≤ most) ∧
        Times (Matches text body) count middle finish := by
  generalize same : repeated body least more = pattern at found
  induction found generalizing least more with
  | least one others _ induction =>
      cases same
      obtain ⟨middle, times, rest⟩ := induction rfl
      exact ⟨middle, .more one times, rest⟩
  | enough =>
      cases same
      exact ⟨_, .none, 0, fun _ _ => Nat.zero_le _, .none⟩
  | further one others _ induction =>
      cases same
      obtain ⟨middle, times, count, bound, rest⟩ := induction rfl
      cases times
      refine ⟨_, .none, count + 1, fun most isMost => ?_, .more one rest⟩
      cases isMost
      exact Nat.succ_le_succ (bound _ rfl)
  | unbounded one others _ induction =>
      cases same
      obtain ⟨middle, times, count, bound, rest⟩ := induction rfl
      cases times
      exact ⟨_, .none, count + 1, fun _ isMost => absurd isMost (by simp), .more one rest⟩
  | _ => cases same

theorem Matches.of_further {count : Nat} (times : Times (Matches text body) count start finish)
    {more : Option Nat} (bound : ∀ most ∈ more, count ≤ most) :
    Matches text (.repeated body 0 more) start finish := by
  induction times generalizing more with
  | none => exact .enough
  | more one others induction =>
      cases more with
      | none => exact .unbounded one (induction (by simp))
      | some most =>
          cases most with
          | zero => exact absurd (bound 0 rfl) (by omega)
          | succ most =>
              refine .further one (induction fun bound' isMost => ?_)
              cases isMost
              exact Nat.le_of_succ_le_succ (bound _ rfl)

theorem Matches.of_least {least : Nat} {more : Option Nat}
    (times : Times (Matches text body) least start middle)
    (rest : Matches text (.repeated body 0 more) middle finish) :
    Matches text (.repeated body least more) start finish := by
  induction times with
  | none => exact rest
  | more one _ induction => exact .least one (induction rest)

end

theorem Matches.start_le_finish {text : Array Char} {pattern : Pattern} {start finish : Nat}
    (found : Matches text pattern start finish) : start ≤ finish := by
  induction found with
  | empty | check | enough => exact Nat.le_refl _
  | oneOf => exact Nat.le_succ _
  | seq _ _ one two | least _ _ one two | further _ _ one two | unbounded _ _ one two =>
      exact Nat.le_trans one two
  | left _ induction | right _ induction => exact induction

theorem Matches.finish_le_size {text : Array Char} {pattern : Pattern} {start finish : Nat}
    (found : Matches text pattern start finish) (within : start ≤ text.size) :
    finish ≤ text.size := by
  induction found with
  | empty | check | enough => exact within
  | oneOf found => exact (Array.getElem?_eq_some_iff.mp found).1
  | seq _ _ one two | least _ _ one two | further _ _ one two | unbounded _ _ one two =>
      exact two (one within)
  | left _ induction | right _ induction => exact induction within

/-! ## Computed positions -/

/-- Positions in a text of this size, in ascending order. -/
structure Positions (size : Nat) (positions : List Nat) : Prop where
  ascending : positions.Pairwise (· < ·)
  within : ∀ position ∈ positions, position ≤ size

theorem Positions.filter {size : Nat} {positions : List Nat} (are : Positions size positions)
    (test : Nat → Bool) : Positions size (positions.filter test) :=
  ⟨are.ascending.filter test,
    fun position member => are.within position (List.mem_of_mem_filter member)⟩

theorem Positions.union {size : Nat} {left right : List Nat} (are : Positions size left)
    (areToo : Positions size right) : Positions size (union left right) := by
  refine ⟨pairwise_union are.ascending areToo.ascending, fun position member => ?_⟩
  rcases mem_union.mp member with inLeft | inRight
  · exact are.within position inLeft
  · exact areToo.within position inRight

theorem Positions.sublist {size : Nat} {positions fewer : List Nat}
    (are : Positions size positions) (part : fewer.Sublist positions) : Positions size fewer :=
  ⟨are.ascending.sublist part, fun position member => are.within position (part.mem member)⟩

/-! ### Positions seen in some steps -/

section

variable {relation : Nat → Nat → Prop} {seen fresh : List Nat}

theorem mem_iff_of_closed
    (closed : ∀ start finish, relation start finish → start ∈ seen → finish ∈ seen)
    {count finish : Nat} :
    finish ∈ seen ↔
      ∃ start ∈ seen, ∃ fewer, fewer ≤ count ∧ Times relation fewer start finish := by
  constructor
  · exact fun member => ⟨finish, member, 0, Nat.zero_le _, .none⟩
  · rintro ⟨start, isSeen, fewer, -, times⟩
    exact times.stays closed isSeen

/-- The steps from what one step reaches are one fewer. -/
theorem exists_times_succ
    (onward : ∀ start ∈ seen, ∀ finish, relation start finish → finish ∈ union seen fresh)
    (reached : ∀ finish ∈ fresh, ∃ start ∈ seen, relation start finish) {count finish : Nat} :
    (∃ start ∈ union seen fresh, ∃ fewer, fewer ≤ count ∧ Times relation fewer start finish) ↔
      ∃ start ∈ seen, ∃ fewer, fewer ≤ count + 1 ∧ Times relation fewer start finish := by
  constructor
  · rintro ⟨start, member, fewer, bound, times⟩
    rcases mem_union.mp member with isSeen | isNew
    · exact ⟨start, isSeen, fewer, by omega, times⟩
    · obtain ⟨before, isSeen, leads⟩ := reached start isNew
      exact ⟨before, isSeen, fewer + 1, by omega, .more leads times⟩
  · rintro ⟨start, isSeen, fewer, bound, times⟩
    cases times with
    | none => exact ⟨finish, mem_union.mpr (.inl isSeen), 0, by omega, .none⟩
    | @more fewer _ middle _ one others =>
        exact ⟨middle, onward start isSeen middle one, fewer, by omega, others⟩

end

/-- From positions the step goes to the positions that the relation leads to. -/
def Computes (size : Nat) (relation : Nat → Nat → Prop) (step : List Nat → List Nat) : Prop :=
  ∀ starts, Positions size starts →
    Positions size (step starts) ∧
      ∀ finish, finish ∈ step starts ↔ ∃ start ∈ starts, relation start finish

namespace Computes

variable {size : Nat} {relation : Nat → Nat → Prop} {step : List Nat → List Nat}

theorem times (computes : Computes size relation step) (count : Nat) :
    Computes size (Times relation count) (steps step count) := by
  intro starts are
  induction count generalizing starts with
  | zero => exact ⟨are, fun finish => by simp [steps, times_zero]⟩
  | succ count induction =>
      obtain ⟨areNext, next⟩ := computes starts are
      obtain ⟨areLast, last⟩ := induction (step starts) areNext
      refine ⟨areLast, fun finish => ?_⟩
      simp only [steps, last, next, times_succ]
      grind

/-- What the latest positions lead to is still to be seen; all else has been. -/
theorem grow (computes : Computes size relation step) (count : Nat) {latest seen : List Nat}
    (areLatest : Positions size latest) (areSeen : Positions size seen)
    (subset : latest ⊆ seen)
    (closed : ∀ start ∈ seen, start ∉ latest → ∀ finish, relation start finish → finish ∈ seen) :
    Positions size (grow step count latest seen) ∧
      ∀ finish, finish ∈ Pattern.grow step count latest seen ↔
        ∃ start ∈ seen, ∃ fewer, fewer ≤ count ∧ Times relation fewer start finish := by
  induction count generalizing latest seen with
  | zero =>
      refine ⟨areSeen, fun finish => ?_⟩
      simp [Pattern.grow, times_zero]
  | succ count induction =>
      obtain ⟨areNext, next⟩ := computes latest areLatest
      let fresh := difference (step latest) seen
      have areNew : Positions size fresh := areNext.sublist (difference_sublist _ _)
      have new (finish : Nat) : finish ∈ fresh ↔
          (∃ start ∈ latest, relation start finish) ∧ finish ∉ seen := by
        rw [mem_difference areNext.ascending areSeen.ascending, next]
      have onward : ∀ start ∈ seen, ∀ finish, relation start finish →
          finish ∈ union seen fresh := by
        intro start isSeen finish leads
        rw [mem_union, new]
        by_contra unknown
        obtain ⟨notSeen, notNew⟩ := not_or.mp unknown
        refine notNew ⟨⟨start, by_contra fun notLatest => ?_, leads⟩, notSeen⟩
        exact notSeen (closed start isSeen notLatest finish leads)
      rw [Pattern.grow]
      split
      next nothing =>
        refine ⟨areSeen, fun finish => mem_iff_of_closed fun start finish leads isSeen => ?_⟩
        have known := onward start isSeen finish leads
        rw [show fresh = [] from nothing] at known
        exact (mem_union.mp known).resolve_right List.not_mem_nil
      next =>
        have closedNext : ∀ start ∈ union seen fresh, start ∉ fresh → ∀ finish,
            relation start finish → finish ∈ union seen fresh := fun start member notNew =>
          onward start ((mem_union.mp member).resolve_right notNew)
        obtain ⟨are, reached⟩ := induction areNew (areSeen.union areNew)
          (fun _ member => mem_union.mpr (.inr member)) closedNext
        refine ⟨are, fun finish => (reached finish).trans (exists_times_succ onward ?_)⟩
        intro finish isNew
        obtain ⟨⟨start, isLatest, leads⟩, -⟩ := (new finish).mp isNew
        exact ⟨start, subset isLatest, leads⟩

end Computes

section

variable {text : Array Char}

theorem computes_empty : Computes text.size (Matches text .empty) (reach text .empty) := by
  refine fun starts are => ⟨are, fun finish => ⟨fun member => ⟨finish, member, .empty⟩, ?_⟩⟩
  rintro ⟨start, member, found⟩
  cases found
  exact member

theorem computes_oneOf (test : CharTest) :
    Computes text.size (Matches text (.oneOf test)) (reach text (.oneOf test)) := by
  intro starts are
  have found (position : Nat) (accepts : text[position]?.any test.accepts = true) :
      ∃ char, text[position]? = some char ∧ test.accepts char = true :=
    (Option.any_eq_true _ _).mp accepts
  refine ⟨⟨?_, fun finish member => ?_⟩, fun finish => ⟨fun member => ?_, ?_⟩⟩
  · exact (are.ascending.filter _).map _ fun _ _ less => Nat.succ_lt_succ less
  · obtain ⟨position, isThere, rfl⟩ := List.mem_map.mp member
    obtain ⟨char, isChar, -⟩ := found position (List.mem_filter.mp isThere).2
    exact (Array.getElem?_eq_some_iff.mp isChar).1
  · obtain ⟨position, isThere, rfl⟩ := List.mem_map.mp member
    obtain ⟨isStart, accepts⟩ := List.mem_filter.mp isThere
    obtain ⟨char, isChar, accepted⟩ := found position accepts
    exact ⟨position, isStart, .oneOf isChar accepted⟩
  · rintro ⟨start, isStart, found⟩
    cases found with
    | oneOf isChar accepted =>
        refine List.mem_map_of_mem (List.mem_filter.mpr ⟨isStart, ?_⟩)
        rw [isChar]
        exact accepted

theorem computes_check (boundary : Boundary) :
    Computes text.size (Matches text (.check boundary)) (reach text (.check boundary)) := by
  refine fun starts are => ⟨are.filter _, fun finish => ?_⟩
  rw [reach, List.mem_filter]
  constructor
  · rintro ⟨member, holds⟩
    exact ⟨finish, member, .check holds⟩
  · rintro ⟨start, member, found⟩
    cases found with
    | check holds => exact ⟨member, holds⟩

variable {first second body : Pattern}

theorem Computes.seq (one : Computes text.size (Matches text first) (reach text first))
    (two : Computes text.size (Matches text second) (reach text second)) :
    Computes text.size (Matches text (.seq first second)) (reach text (.seq first second)) := by
  intro starts are
  obtain ⟨areMiddle, middle⟩ := one starts are
  obtain ⟨areLast, last⟩ := two _ areMiddle
  refine ⟨areLast, fun finish => (last finish).trans ⟨?_, ?_⟩⟩
  · rintro ⟨between, member, rest⟩
    obtain ⟨start, isStart, found⟩ := (middle between).mp member
    exact ⟨start, isStart, .seq found rest⟩
  · rintro ⟨start, isStart, found⟩
    cases found with
    | seq found rest => exact ⟨_, (middle _).mpr ⟨start, isStart, found⟩, rest⟩

theorem Computes.either (one : Computes text.size (Matches text first) (reach text first))
    (two : Computes text.size (Matches text second) (reach text second)) :
    Computes text.size (Matches text (.either first second))
      (reach text (.either first second)) := by
  intro starts are
  obtain ⟨areLeft, inLeft⟩ := one starts are
  obtain ⟨areRight, inRight⟩ := two starts are
  refine ⟨areLeft.union areRight, fun finish => ?_⟩
  rw [reach, mem_union, inLeft, inRight]
  constructor
  · rintro (⟨start, isStart, found⟩ | ⟨start, isStart, found⟩)
    · exact ⟨start, isStart, .left found⟩
    · exact ⟨start, isStart, .right found⟩
  · rintro ⟨start, isStart, found⟩
    cases found with
    | left found => exact .inl ⟨start, isStart, found⟩
    | right found => exact .inr ⟨start, isStart, found⟩

/-- As many stretches as the text has characters, and one more, are enough: the others are empty. -/
theorem Times.bounded_iff {middle finish : Nat} (within : middle ≤ text.size)
    (more : Option Nat) :
    (∃ fewer, fewer ≤ min (more.getD (text.size + 1)) (text.size + 1) ∧
        Times (Matches text body) fewer middle finish) ↔
      ∃ count, (∀ most ∈ more, count ≤ most) ∧ Times (Matches text body) count middle finish := by
  constructor
  · rintro ⟨fewer, few, times⟩
    refine ⟨fewer, fun most isMost => ?_, times⟩
    rw [Option.mem_def.mp isMost] at few
    exact Nat.le_trans few (Nat.min_le_left ..)
  · rintro ⟨count, most, times⟩
    obtain ⟨-, fewer, less, short, found⟩ := times.shorten fun _ _ found => found.start_le_finish
    have last : finish ≤ text.size :=
      times.stays (fun _ _ found => found.finish_le_size) within
    refine ⟨fewer, Nat.le_min.mpr ⟨?_, by omega⟩, found⟩
    cases more with
    | none => exact Nat.le_trans short (by simp only [Option.getD_none]; omega)
    | some limit => exact Nat.le_trans less (most limit rfl)

theorem Computes.repeated (computes : Computes text.size (Matches text body) (reach text body))
    (least : Nat) (more : Option Nat) :
    Computes text.size (Matches text (.repeated body least more))
      (reach text (.repeated body least more)) := by
  intro starts are
  obtain ⟨areEnough, enough⟩ := computes.times least starts are
  let bound := text.size + 1
  obtain ⟨areLast, last⟩ := computes.grow (min (more.getD bound) bound) areEnough areEnough
    (List.Subset.refl _) fun start member notLatest => absurd member notLatest
  refine ⟨areLast, fun finish => (last finish).trans ⟨?_, ?_⟩⟩
  · rintro ⟨middle, member, fewer⟩
    obtain ⟨start, isStart, times⟩ := (enough middle).mp member
    obtain ⟨count, bound, rest⟩ := (Times.bounded_iff (areEnough.within middle member) more).mp fewer
    exact ⟨start, isStart, .of_least times (.of_further rest bound)⟩
  · rintro ⟨start, isStart, found⟩
    obtain ⟨middle, times, rest⟩ := found.exists_times
    have member := (enough middle).mpr ⟨start, isStart, times⟩
    exact ⟨middle, member, (Times.bounded_iff (areEnough.within middle member) more).mpr rest⟩

end

theorem computes_reach (text : Array Char) (pattern : Pattern) :
    Computes text.size (Matches text pattern) (reach text pattern) := by
  induction pattern with
  | empty => exact computes_empty
  | oneOf test => exact computes_oneOf test
  | check boundary => exact computes_check boundary
  | seq first second one two => exact one.seq two
  | either left right one two => exact one.either two
  | repeated body least more induction => exact induction.repeated least more

/-- A pattern occurs in a text if it describes a stretch of it. -/
theorem occursIn_iff (pattern : Pattern) (text : String) :
    pattern.occursIn text = true ↔
      ∃ start finish, start ≤ text.toList.length ∧
        Matches text.toList.toArray pattern start finish := by
  let chars := text.toList.toArray
  have all : Positions chars.size (List.range (chars.size + 1)) :=
    ⟨List.pairwise_lt_range, fun position member => Nat.le_of_lt_succ (List.mem_range.mp member)⟩
  obtain ⟨-, reached⟩ := computes_reach chars pattern _ all
  rw [occursIn, Bool.not_eq_true', List.isEmpty_eq_false_iff_exists_mem]
  constructor
  · rintro ⟨finish, member⟩
    obtain ⟨start, isStart, found⟩ := (reached finish).mp member
    exact ⟨start, finish, all.within start isStart, found⟩
  · rintro ⟨start, finish, within, found⟩
    have isStart := List.mem_range.mpr (Nat.lt_succ_of_le within)
    exact ⟨finish, (reached finish).mpr ⟨start, isStart, found⟩⟩

end CodeGraph.Pattern
