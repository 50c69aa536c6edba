import CodeGraph.Pattern.Reader
import Mathlib.Data.List.Infix

/-!
# Reading in front of a closing bracket

A step of reading that succeeds by itself gives the same answer where a closing bracket follows the
text.  Only a comment that has not ended takes in the bracket as well.  Reading also goes on in the
same way if it may take longer.
-/

namespace CodeGraph.Pattern

open Parse

/-- What follows a pattern in anchors. -/
def closing : List Char := [')', '$']

/-- The reading of the same text in front of the closing. -/
def Reading.closed (reading : Reading) : Reading :=
  { reading with rest := reading.rest ++ closing }

/-- What comes out of a reading comes out of another one from the same place, and also of one in
front of the closing, which is left unless a comment has taken it in. -/
structure Kept {α : Type} (reading : Reading) (again closed : Option (α × Reading)) (answer : α)
    (after : Reading) : Prop where
  suffix : after.rest <:+ reading.rest
  again : again = some (answer, after)
  closed : closed = some (answer, after.closed) ∨
    after.rest = [] ∧ '#' ∈ reading.rest ∧ closed = some (answer, after)

/-- Whatever is read from this place is kept. -/
def KeptAt {α : Type} (reading : Reading) (alone again closed : Option (α × Reading)) : Prop :=
  ∀ answer after, alone = some (answer, after) → Kept reading again closed answer after

/-- Whatever the first reads, the second reads as well, in front of the closing or not. -/
def Extends {α : Type} (first second : Parse α) : Prop :=
  ∀ reading, KeptAt reading (first reading) (second reading) (second reading.closed)

/-- Whatever the first reads where the text has not ended, the second reads as well. -/
def ExtendsInside {α : Type} (first second : Parse α) : Prop :=
  ∀ reading, reading.rest ≠ [] →
    KeptAt reading (first reading) (second reading) (second reading.closed)

/-! ## Steps in sequence -/

section

variable {α β : Type} {reading : Reading} {first second third : Parse α}

theorem Parse.bind_of_eq {answer : α} {after : Reading} {next : α → Parse β}
    (read : first reading = some (answer, after)) :
    (first >>= next) reading = next answer after := by
  have opened : (first >>= next) reading =
    (first reading).bind fun result => next result.1 result.2 := rfl
  rw [opened, read, Option.bind_some]

theorem Parse.bind_none {next : α → Parse β} (read : first reading = none) :
    (first >>= next) reading = none :=
  congrArg (fun result => result.bind fun result => next result.1 result.2) read

theorem Parse.bind_congr {next : α → Parse β} {later : Reading}
    (same : first reading = second later) : (first >>= next) reading = (second >>= next) later :=
  congrArg (fun result => result.bind fun result => next result.1 result.2) same

theorem Parse.get_bind (next : Reading → Parse β) (reading : Reading) :
    (MonadState.get >>= next) reading = next reading reading := rfl

theorem KeptAt.refused {again closed : Option (α × Reading)} : KeptAt reading none again closed :=
  fun _ _ read => nomatch read

theorem KeptAt.returned {answer : α} {after : Reading} (suffix : after.rest <:+ reading.rest) :
    KeptAt reading (some (answer, after)) (some (answer, after))
      (some (answer, after.closed)) := by
  intro _ _ read
  cases read
  exact ⟨suffix, rfl, .inl rfl⟩

/-- The reading from the same place and the one in front of the closing may be compared one by
one. -/
theorem KeptAt.mix {alone again closed againToo closedToo : Option (α × Reading)}
    (kept : KeptAt reading alone again closed) (keptToo : KeptAt reading alone againToo closedToo) :
    KeptAt reading alone again closedToo :=
  fun answer after read =>
    ⟨(kept answer after read).suffix, (kept answer after read).again,
      (keptToo answer after read).closed⟩

/-- What is kept from a later place is kept. -/
theorem KeptAt.of_suffix {alone again closed : Option (α × Reading)} {later : Reading}
    (suffix : later.rest <:+ reading.rest) (kept : KeptAt later alone again closed) :
    KeptAt reading alone again closed := by
  intro answer after read
  obtain ⟨ends, again, closed⟩ := kept answer after read
  exact ⟨ends.trans suffix, again, closed.imp_right fun ⟨ended, comment, taken⟩ =>
    ⟨ended, suffix.subset comment, taken⟩⟩

theorem KeptAt.bindAt {next more last : α → Parse β}
    (kept : KeptAt reading (first reading) (second reading) (third reading.closed))
    (rest : ∀ answer after, first reading = some (answer, after) →
      KeptAt after (next answer after) (more answer after) (last answer after.closed))
    (swallowed : ∀ answer after, first reading = some (answer, after) → after.rest = [] →
      more answer after = last answer after) :
    KeptAt reading ((first >>= next) reading) ((second >>= more) reading)
      ((third >>= last) reading.closed) := by
  intro answer after read
  obtain ⟨⟨middle, between⟩, one, two⟩ := Option.bind_eq_some_iff.mp read
  obtain ⟨suffix, again, closed⟩ := kept middle between one
  obtain ⟨suffixToo, againToo, closedToo⟩ := rest middle between one answer after two
  refine ⟨suffixToo.trans suffix, (Parse.bind_of_eq again).trans againToo, ?_⟩
  rcases closed with left | ⟨ended, comment, taken⟩
  · rw [Parse.bind_of_eq left]
    exact closedToo.imp_right fun ⟨ended, comment, taken⟩ => ⟨ended, suffix.subset comment, taken⟩
  · rw [Parse.bind_of_eq taken, ← swallowed middle between one ended]
    rw [ended] at suffixToo
    exact .inr ⟨List.suffix_nil.mp suffixToo, comment, againToo⟩

theorem KeptAt.bind {next more : α → Parse β}
    (kept : KeptAt reading (first reading) (second reading) (third reading.closed))
    (rest : ∀ answer, Extends (next answer) (more answer)) :
    KeptAt reading ((first >>= next) reading) ((second >>= more) reading)
      ((third >>= more) reading.closed) :=
  kept.bindAt (fun answer after _ => rest answer after) fun _ _ _ _ => rfl

theorem Extends.bind {next more : α → Parse β} (extended : Extends first second)
    (rest : ∀ answer, Extends (next answer) (more answer)) :
    Extends (first >>= next) (second >>= more) :=
  fun reading => (extended reading).bind rest

theorem Extends.inside (extended : Extends first second) : ExtendsInside first second :=
  fun reading _ => extended reading

theorem ExtendsInside.bind {next more : α → Parse β} (extended : ExtendsInside first second)
    (rest : ∀ answer, Extends (next answer) (more answer)) :
    ExtendsInside (first >>= next) (second >>= more) :=
  fun reading some => (extended reading some).bind rest

theorem Extends.pure (answer : α) : Extends (Pure.pure answer) (Pure.pure answer) :=
  fun _ => .returned (List.suffix_refl _)

theorem Extends.refuse : Extends Parse.refuse second := fun _ => .refused

theorem Extends.require (condition : Bool) :
    Extends (Parse.require condition) (Parse.require condition) := by
  cases condition
  · exact .refuse
  · exact .pure ()

end

/-! ## Single steps -/

section

variable {α β : Type} {reading : Reading}

/-- A step that looks at the reading, in each place at the one there. -/
theorem Extends.getAt {next more : Reading → Parse β}
    (rest : ∀ reading, KeptAt reading (next reading reading) (more reading reading)
      (more reading.closed reading.closed)) :
    Extends (MonadState.get >>= next) (MonadState.get >>= more) :=
  rest

/-- A step that looks at the flags or the names, but not at the text. -/
theorem Extends.get {next more : Reading → Parse β}
    (rest : ∀ reading, Extends (next reading) (more reading))
    (closes : ∀ reading, more reading.closed = more reading) :
    Extends (MonadState.get >>= next) (MonadState.get >>= more) := by
  refine .getAt fun reading => ?_
  rw [closes]
  exact rest reading reading

theorem Extends.modify {change : Reading → Reading}
    (keeps : ∀ reading, (change reading).rest = reading.rest)
    (closes : ∀ reading, change reading.closed = (change reading).closed) :
    Extends (modify change : Parse Unit) (modify change) := by
  intro reading answer after read
  cases read
  refine ⟨?_, rfl, .inl ?_⟩
  · rw [keeps]
  · exact congrArg (fun reading => some ((), reading)) (closes reading)

theorem Extends.withFlags (flags : Flags) : Extends (withFlags flags) (withFlags flags) :=
  .modify (fun _ => rfl) fun _ => rfl

theorem Extends.next : Extends next next := by
  rintro ⟨_ | ⟨char, rest⟩, flags, names⟩
  · exact .refused
  · exact .returned (List.suffix_cons char rest)

theorem Extends.expect (char : Char) : Extends (expect char) (expect char) :=
  Extends.next.bind fun _ => .require _

/-- Looking at the next character, which is a bracket at the end of what is closed. -/
theorem Extends.peek {next more : Option Char → Parse β}
    (inside : ∀ char, ExtendsInside (next (some char)) (more (some char)))
    (ended : Extends (next none) (more none)) (closed : Extends (next none) (more (some ')'))) :
    Extends (Parse.peek >>= next) (Parse.peek >>= more) := by
  rintro ⟨_ | ⟨char, rest⟩, flags, names⟩
  · exact (ended _).mix (closed _)
  · exact inside char _ (List.cons_ne_nil char rest)

theorem KeptAt.drop {count : Nat} (long : count ≤ reading.rest.length) :
    KeptAt reading (Parse.drop count reading) (Parse.drop count reading)
      (Parse.drop count reading.closed) := by
  have closes : Parse.drop count reading.closed =
      some ((), Reading.closed { reading with rest := reading.rest.drop count }) :=
    congrArg (fun rest => some ((), Reading.mk rest reading.flags reading.names))
      (List.drop_append_of_le_length long)
  rw [closes]
  exact .returned (List.drop_suffix count reading.rest)

theorem ExtendsInside.drop : ExtendsInside (Parse.drop 1) (Parse.drop 1) :=
  fun _ some => .drop (List.length_pos_iff.mpr some)

theorem isPrefixOf_append_closing {text : List Char} (unclosed : ')' ∉ text) (rest : List Char) :
    text.isPrefixOf (rest ++ closing) = text.isPrefixOf rest := by
  induction text generalizing rest with
  | nil => simp
  | cons char text induction =>
    rw [List.mem_cons, not_or] at unclosed
    cases rest with
    | nil => simp [closing, List.isPrefixOf, Ne.symm unclosed.1]
    | cons other rest => simp [List.isPrefixOf, induction unclosed.2]

theorem Extends.startsWith {text : String} (unclosed : ')' ∉ text.toList) :
    Extends (startsWith text) (startsWith text) := by
  intro reading answer after read
  cases read
  refine ⟨List.suffix_refl _, rfl, .inl ?_⟩
  exact congrArg (fun found => some (found, reading.closed))
    (isPrefixOf_append_closing unclosed reading.rest)

theorem Extends.anyStartsWith {texts : List String}
    (unclosed : ∀ text ∈ texts, ')' ∉ text.toList) :
    Extends (texts.anyM Parse.startsWith) (texts.anyM Parse.startsWith) := by
  induction texts with
  | nil => exact .pure false
  | cons text texts induction =>
    rw [List.forall_mem_cons] at unclosed
    rw [List.anyM]
    refine (Extends.startsWith unclosed.1).bind fun found => ?_
    cases found with
    | true => exact .pure true
    | false => exact induction unclosed.2

theorem Extends.skipText {text : String} (unclosed : ')' ∉ text.toList) :
    Extends (skipText text) (skipText text) := by
  intro reading
  refine (Extends.startsWith unclosed reading).bindAt (fun found after read => ?_)
    fun _ _ _ _ => rfl
  cases read
  cases found : text.toList.isPrefixOf reading.rest with
  | false => exact .returned (List.suffix_refl _)
  | true =>
    have long := (List.isPrefixOf_iff_prefix.mp found).length_le
    rw [String.length_toList] at long
    exact (KeptAt.drop long).bind fun _ => .pure true

theorem dropWhile_append_closing {test : Char → Bool} {rest : List Char}
    (stops : test ')' = false ∨ rest.dropWhile test ≠ []) :
    (rest ++ closing).dropWhile test = rest.dropWhile test ++ closing := by
  rw [List.dropWhile_append]
  split
  case isFalse => rfl
  case isTrue empty =>
    rw [List.isEmpty_iff] at empty
    rcases stops with stops | left
    · simp [empty, closing, stops]
    · exact absurd empty left

theorem takeWhile_append_closing {test : Char → Bool} {rest : List Char}
    (stops : test ')' = false ∨ rest.dropWhile test ≠ []) :
    (rest ++ closing).takeWhile test = rest.takeWhile test := by
  have whole := List.takeWhile_append_dropWhile (p := test) (l := rest ++ closing)
  rw [dropWhile_append_closing stops, ← List.append_assoc, List.append_cancel_right_eq] at whole
  exact List.append_cancel_right (whole.trans List.takeWhile_append_dropWhile.symm)

theorem takeWhile_closed {test : Char → Bool} {chars : List Char} {after : Reading}
    (stops : test ')' = false ∨ reading.rest.dropWhile test ≠ [])
    (read : takeWhile test reading = some (chars, after)) :
    takeWhile test reading.closed = some (chars, after.closed) := by
  cases read
  exact congrArg₂ (fun chars rest => some (chars, Reading.mk rest reading.flags reading.names))
    (takeWhile_append_closing stops) (dropWhile_append_closing stops)

theorem KeptAt.takeWhile {test : Char → Bool}
    (stops : test ')' = false ∨ reading.rest.dropWhile test ≠ []) :
    KeptAt reading (takeWhile test reading) (takeWhile test reading)
      (takeWhile test reading.closed) := by
  intro chars after read
  refine ⟨?_, read, .inl (takeWhile_closed stops read)⟩
  cases read
  exact List.dropWhile_suffix test

theorem Extends.takeWhile {test : Char → Bool} (stops : test ')' = false) :
    Extends (takeWhile test) (takeWhile test) :=
  fun _ => .takeWhile (.inl stops)

end

/-! ## Blanks and comments -/

section

variable {chars rest : List Char}

theorem afterSpace_nil (fuel : Nat) : afterSpace fuel [] = [] := by
  cases fuel <;> rfl

theorem afterSpace_closing (fuel : Nat) : afterSpace fuel closing = closing := by
  cases fuel <;> rfl

theorem afterSpace_comment (fuel : Nat) (comment : chars.dropWhile Text.isBlank = '#' :: rest) :
    afterSpace (fuel + 1) chars = afterSpace fuel ((rest.dropWhile (· != '\n')).drop 1) := by
  simp [afterSpace, comment]

theorem afterSpace_text (fuel : Nat) (text : (chars.dropWhile Text.isBlank).head? ≠ some '#') :
    afterSpace (fuel + 1) chars = chars.dropWhile Text.isBlank := by
  rw [afterSpace]
  split
  case h_1 rest comment => exact absurd (congrArg List.head? comment) text
  case h_2 => rfl

/-- What follows the line of a comment is a smaller end of the text. -/
theorem suffix_of_comment (comment : chars.dropWhile Text.isBlank = '#' :: rest) :
    '#' :: rest <:+ chars ∧ (rest.dropWhile (· != '\n')).drop 1 <:+ rest :=
  ⟨comment ▸ List.dropWhile_suffix _, (List.drop_suffix ..).trans (List.dropWhile_suffix _)⟩

theorem length_after_comment (comment : chars.dropWhile Text.isBlank = '#' :: rest) :
    ((rest.dropWhile (· != '\n')).drop 1).length < chars.length := by
  have outer := (suffix_of_comment comment).1.length_le
  have inner := (suffix_of_comment comment).2.length_le
  rw [List.length_cons] at outer
  omega

theorem afterSpace_suffix (fuel : Nat) (chars : List Char) : afterSpace fuel chars <:+ chars := by
  induction fuel generalizing chars with
  | zero => exact List.suffix_refl _
  | succ fuel induction =>
    cases dropped : (chars.dropWhile Text.isBlank).head? == some '#' with
    | false =>
      rw [afterSpace_text fuel (by simpa using dropped)]
      exact List.dropWhile_suffix _
    | true =>
      obtain ⟨rest, comment⟩ := List.head?_eq_some_iff.mp (eq_of_beq dropped)
      rw [afterSpace_comment fuel comment]
      obtain ⟨outer, inner⟩ := suffix_of_comment comment
      exact (induction _).trans (inner.trans ((List.suffix_cons ..).trans outer))

theorem head?_append_closing (chars : List Char) :
    (chars ++ closing).head? = some (chars.head?.getD ')') := by
  cases chars <;> rfl

theorem head?_dropWhile_append_closing
    (text : (chars.dropWhile Text.isBlank).head? ≠ some '#') :
    ((chars ++ closing).dropWhile Text.isBlank).head? ≠ some '#' := by
  rw [dropWhile_append_closing (.inl rfl), head?_append_closing]
  cases head : (chars.dropWhile Text.isBlank).head? with
  | none => decide
  | some char => exact head ▸ text

/-- How long it may take makes no difference. -/
theorem afterSpace_fuel {first second : Nat} (enough : chars.length ≤ first)
    (again : chars.length ≤ second) : afterSpace first chars = afterSpace second chars := by
  induction first generalizing second chars with
  | zero =>
    rw [List.eq_nil_of_length_eq_zero (Nat.le_zero.mp enough), afterSpace_nil, afterSpace_nil]
  | succ first induction =>
    rcases Nat.eq_zero_or_pos chars.length with empty | filled
    · rw [List.eq_nil_of_length_eq_zero empty, afterSpace_nil, afterSpace_nil]
    obtain ⟨second, rfl⟩ := Nat.exists_eq_add_of_le' (filled.trans_le again)
    cases comment : (chars.dropWhile Text.isBlank).head? == some '#' with
    | false =>
      have text : (chars.dropWhile Text.isBlank).head? ≠ some '#' := by simpa using comment
      rw [afterSpace_text _ text, afterSpace_text _ text]
    | true =>
      obtain ⟨rest, dropped⟩ := List.head?_eq_some_iff.mp (eq_of_beq comment)
      have shorter := length_after_comment dropped
      rw [afterSpace_comment _ dropped, afterSpace_comment _ dropped]
      exact induction (by omega) (by omega)

/-- A comment that has not ended takes in the closing, and else the closing is left. -/
theorem afterSpace_append_closing {fuel : Nat} (enough : chars.length ≤ fuel) :
    afterSpace fuel (chars ++ closing) = afterSpace fuel chars ++ closing ∨
      afterSpace fuel chars = [] ∧ '#' ∈ chars ∧ afterSpace fuel (chars ++ closing) = [] := by
  induction fuel generalizing chars with
  | zero =>
    rw [List.eq_nil_of_length_eq_zero (Nat.le_zero.mp enough), afterSpace_nil]
    exact .inl (afterSpace_closing 0)
  | succ fuel induction =>
    have stays : (chars ++ closing).dropWhile Text.isBlank = _ :=
      dropWhile_append_closing (.inl rfl)
    cases comment : (chars.dropWhile Text.isBlank).head? == some '#' with
    | false =>
      have text : (chars.dropWhile Text.isBlank).head? ≠ some '#' := by simpa using comment
      rw [afterSpace_text _ text, afterSpace_text _ (head?_dropWhile_append_closing text)]
      exact .inl stays
    | true =>
      obtain ⟨rest, dropped⟩ := List.head?_eq_some_iff.mp (eq_of_beq comment)
      have inside := (suffix_of_comment dropped).1.subset (List.mem_cons_self ..)
      have shorter := length_after_comment dropped
      rw [dropped, List.cons_append] at stays
      rw [afterSpace_comment _ dropped, afterSpace_comment _ stays]
      cases line : rest.dropWhile (· != '\n') with
      | nil =>
        have swallowed : (rest ++ closing).dropWhile (· != '\n') = [] := by
          rw [List.dropWhile_append, line]
          rfl
        rw [swallowed, List.drop_nil, afterSpace_nil]
        exact .inr ⟨rfl, inside, rfl⟩
      | cons newline after =>
        rw [dropWhile_append_closing (.inr (by simp [line])), line]
        rw [line, List.drop_succ_cons, List.drop_zero] at shorter
        rcases induction (by omega : after.length ≤ fuel) with left | ⟨ended, -, taken⟩
        · exact .inl left
        · exact .inr ⟨ended, inside, taken⟩

end

theorem unspaced_suffix (reading : Reading) : (unspaced reading).rest <:+ reading.rest := by
  unfold unspaced
  split
  · exact afterSpace_suffix ..
  · exact List.suffix_refl _

theorem unspaced_closed (reading : Reading) :
    unspaced reading.closed = (unspaced reading).closed ∨
      (unspaced reading).rest = [] ∧ '#' ∈ reading.rest ∧
        unspaced reading.closed = unspaced reading := by
  unfold unspaced
  cases extended : reading.flags.extended with
  | false => exact .inl (by simp [Reading.closed, extended])
  | true =>
    have longer : reading.rest.length ≤ (reading.rest ++ closing).length := by simp
    have closes := afterSpace_append_closing longer
    rw [← afterSpace_fuel (Nat.le_refl _) longer] at closes
    rcases closes with left | ⟨ended, comment, taken⟩
    · exact .inl (by simp only [Reading.closed, extended, if_true, left])
    · refine .inr ⟨?_, comment, ?_⟩
      · simp only [if_true, ended]
      · simp only [Reading.closed, extended, if_true, ended, taken]

/-- What comes after the blanks is the same, or the closing comes after them. -/
theorem unspaced_head?_closed (reading : Reading) :
    (unspaced reading.closed).rest.head? = (unspaced reading).rest.head? ∨
      (unspaced reading).rest.head? = none ∧
        (unspaced reading.closed).rest.head? = some ')' := by
  rcases unspaced_closed reading with left | ⟨_, _, taken⟩
  · rw [left, Reading.closed, head?_append_closing]
    cases (unspaced reading).rest.head? with
    | none => exact .inr ⟨rfl, rfl⟩
    | some char => exact .inl rfl
  · exact .inl (by rw [taken])

theorem Extends.skipSpace : Extends skipSpace skipSpace := by
  intro reading answer after read
  cases read
  refine ⟨unspaced_suffix reading, rfl, ?_⟩
  rcases unspaced_closed reading with left | ⟨ended, comment, taken⟩
  · exact .inl (congrArg (fun reading => some ((), reading)) left)
  · exact .inr ⟨ended, comment, congrArg (fun reading => some ((), reading)) taken⟩

/-! ## Runs of characters -/

theorem Extends.takeUntil (stop : Char) {first second : Nat} (more : first ≤ second) :
    Extends (takeUntil stop first) (takeUntil stop second) := by
  induction first generalizing second with
  | zero => exact .refuse
  | succ first induction =>
    obtain ⟨second, rfl⟩ := Nat.exists_eq_add_of_le' (Nat.one_le_of_lt more)
    refine Extends.next.bind fun char => ?_
    split
    · exact .pure []
    · exact Extends.skipSpace.bind fun _ =>
        (induction (Nat.le_of_succ_le_succ more)).bind fun chars => .pure _

/-- The characters up to the given one, read for as long as there are any. -/
theorem Extends.until (stop : Char) {α : Type} {next more : List Char → Parse α}
    (rest : ∀ body, Extends (next body) (more body)) :
    Extends
      (MonadState.get >>= fun reading => Parse.takeUntil stop reading.rest.length >>= next)
      (MonadState.get >>= fun reading => Parse.takeUntil stop reading.rest.length >>= more) := by
  refine .getAt fun reading => KeptAt.bindAt ?_ (fun body after _ => rest body after) ?_
  · have longer : reading.rest.length ≤ reading.closed.rest.length := by simp [Reading.closed]
    exact (Extends.takeUntil stop (Nat.le_refl _) reading).mix
      (Extends.takeUntil stop longer reading)
  · exact fun _ _ _ _ => rfl

theorem Extends.nextSpaced (count : Nat) : Extends (nextSpaced count) (nextSpaced count) := by
  induction count with
  | zero => exact .pure _
  | succ count induction =>
    exact Extends.next.bind fun char => Extends.skipSpace.bind fun _ =>
      induction.bind fun chars => .pure _

section

variable {test : Char → Bool} {reading : Reading}

theorem takeSpaced_none (fuel : Nat) (read : takeWhile test reading = some ([], reading)) :
    takeSpaced test fuel reading = some ([], reading) := by
  cases fuel with
  | zero => rfl
  | succ fuel =>
    rw [takeSpaced, Parse.bind_of_eq read]
    rfl

theorem takeSpaced_some (fuel : Nat) {char : Char} {chars : List Char} {after : Reading}
    (read : takeWhile test reading = some (char :: chars, after)) :
    takeSpaced test (fuel + 1) reading =
      (do
        skipSpace
        return char :: chars ++ (← takeSpaced test fuel) : Parse (List Char)) after := by
  rw [takeSpaced, Parse.bind_of_eq read]

theorem takeWhile_eq_nil {after : Reading}
    (read : takeWhile test reading = some ([], after)) : after = reading := by
  have whole := List.takeWhile_append_dropWhile (p := test) (l := reading.rest)
  obtain ⟨none, rfl⟩ := Prod.mk.inj (Option.some.inj read)
  rw [none, List.nil_append] at whole
  rw [whole]

theorem takeWhile_eq_cons {char : Char} {chars : List Char} {after : Reading}
    (read : takeWhile test reading = some (char :: chars, after)) :
    after.rest.length < reading.rest.length := by
  have whole := List.takeWhile_append_dropWhile (p := test) (l := reading.rest)
  obtain ⟨some, rfl⟩ := Prod.mk.inj (Option.some.inj read)
  have lengths := congrArg List.length whole
  rw [some, List.length_append, List.length_cons] at lengths
  change (reading.rest.dropWhile test).length < _
  omega

theorem KeptAt.takeSpaced_none (stops : test ')' = false) {after : Reading}
    (read : Parse.takeWhile test reading = some ([], after)) (first second third : Nat) :
    KeptAt reading (takeSpaced test first reading) (takeSpaced test second reading)
      (takeSpaced test third reading.closed) := by
  cases takeWhile_eq_nil read
  have readToo := takeWhile_closed (.inl stops) read
  rw [Pattern.takeSpaced_none _ read, Pattern.takeSpaced_none _ read,
    Pattern.takeSpaced_none _ readToo]
  exact .returned (List.suffix_refl _)

/-- How long it may take makes no difference as long as every character can be read. -/
theorem KeptAt.takeSpaced (stops : test ')' = false) {first second third : Nat}
    (enough : reading.rest.length ≤ first) (again : reading.rest.length ≤ second)
    (closed : reading.rest.length ≤ third) :
    KeptAt reading (takeSpaced test first reading) (takeSpaced test second reading)
      (takeSpaced test third reading.closed) := by
  induction first generalizing reading second third with
  | zero =>
    obtain ⟨taken, after, read⟩ :
        ∃ taken after, Parse.takeWhile test reading = some (taken, after) := ⟨_, _, rfl⟩
    cases taken with
    | nil => exact .takeSpaced_none stops read _ _ _
    | cons char chars => exact absurd (takeWhile_eq_cons read) (by omega)
  | succ first induction =>
    obtain ⟨taken, after, read⟩ :
        ∃ taken after, Parse.takeWhile test reading = some (taken, after) := ⟨_, _, rfl⟩
    cases taken with
    | nil => exact .takeSpaced_none stops read _ _ _
    | cons char chars =>
      have shorter := takeWhile_eq_cons read
      have readToo := takeWhile_closed (.inl stops) read
      obtain ⟨second, rfl⟩ := Nat.exists_eq_add_of_le' (Nat.one_le_of_lt (shorter.trans_le again))
      obtain ⟨third, rfl⟩ := Nat.exists_eq_add_of_le' (Nat.one_le_of_lt (shorter.trans_le closed))
      rw [takeSpaced_some _ read, takeSpaced_some _ read, takeSpaced_some _ readToo]
      refine .of_suffix (KeptAt.takeWhile (.inl stops) _ _ read).suffix ?_
      refine (Extends.skipSpace after).bindAt (fun _ spaced spacing => ?_) ?_
      · have ends := (Extends.skipSpace after _ _ spacing).suffix.length_le
        exact (induction (by omega) (by omega) (by omega)).bind fun more => .pure _
      · intro _ spaced spacing ended
        have none : Parse.takeWhile test spaced = some ([], spaced) := by
          cases spaced
          cases ended
          rfl
        rw [Parse.bind_of_eq (Pattern.takeSpaced_none _ none),
          Parse.bind_of_eq (Pattern.takeSpaced_none _ none)]

/-- The characters for which a test holds, read for as long as there are any. -/
theorem Extends.spaced {α : Type} {next more : List Char → Parse α} (stops : test ')' = false)
    (rest : ∀ taken, Extends (next taken) (more taken)) :
    Extends
      (MonadState.get >>= fun reading => Parse.takeSpaced test reading.rest.length >>= next)
      (MonadState.get >>= fun reading => Parse.takeSpaced test reading.rest.length >>= more) := by
  refine .getAt fun reading => KeptAt.bind ?_ rest
  have longer : reading.rest.length ≤ reading.closed.rest.length := by simp [Reading.closed]
  exact .takeSpaced stops (Nat.le_refl _) (Nat.le_refl _) longer

end

end CodeGraph.Pattern
