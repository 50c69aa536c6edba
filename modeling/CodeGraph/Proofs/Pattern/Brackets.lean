import CodeGraph.Proofs.Pattern.Closing

/-!
# Patterns in brackets

Each part of the written form is read in front of a closing bracket as it is read by itself.  So a
text that is a pattern is the body of a group with the same pattern, unless a comment takes in the
bracket.
-/

namespace CodeGraph.Pattern

open Parse

variable {first second : Nat}

/-! ## Characters and classes -/

theorem Extends.allowed (test : CharTest) : Extends (allowed test) (allowed test) :=
  .get (fun _ => (Extends.require _).bind fun _ => .pure test) fun _ => rfl

theorem Extends.charOfHex (digits : List Char) : Extends (charOfHex digits) (charOfHex digits) := by
  unfold Pattern.charOfHex
  split
  · exact .refuse
  · exact .pure _

theorem Extends.hexChar (digits : Nat) : Extends (hexChar digits) (hexChar digits) := by
  refine Extends.skipSpace.bind fun _ => (Extends.skipText (by decide)).bind fun bracket => ?_
  cases bracket with
  | true =>
    refine Extends.skipSpace.bind fun _ => .until _ fun body => ?_
    exact (Extends.require _).bind fun _ => .charOfHex body
  | false =>
    refine (Extends.nextSpaced digits).bind fun chars => ?_
    refine (Extends.charOfHex chars).bind fun char => ?_
    exact .get (fun _ => (Extends.require _).bind fun _ => .pure char) fun _ => rfl

theorem Extends.propertyName (negated : Bool) :
    Extends (propertyName negated) (propertyName negated) := by
  refine (Extends.skipText (by decide)).bind fun bracket => ?_
  cases bracket with
  | true => exact Extends.skipSpace.bind fun _ => .until _ fun body => .pure _
  | false => exact Extends.next.bind fun letter => .pure _

theorem Extends.propertySet (negated : Bool) :
    Extends (propertySet negated) (propertySet negated) := by
  refine .get (fun reading => (Extends.require _).bind fun _ => Extends.skipSpace.bind fun _ =>
    (Extends.propertyName negated).bind fun property => ?_) fun _ => rfl
  obtain ⟨negated, _ | test⟩ := property
  · exact .refuse
  · exact .pure _

theorem inBrackets?_closed (reading : Reading) (found : inBrackets? reading ≠ some none) :
    inBrackets? reading.closed = inBrackets? reading := by
  obtain ⟨_ | ⟨char, inside⟩, flags, names⟩ := reading
  · rfl
  · by_cases bracket : char = '\x7b'
    · subst bracket
      rcases unspaced_head?_closed ⟨inside, flags, names⟩ with same | ⟨none, _⟩
      · exact congrArg some same
      · exact absurd (congrArg some none) found
    · simp [inBrackets?, Reading.closed, bracket]

theorem inBrackets?_some {reading : Reading} {first : Option Char}
    (found : inBrackets? reading = some first) : 1 ≤ reading.rest.length := by
  unfold inBrackets? at found
  split at found
  case h_1 inside brackets => simp [brackets]
  case h_2 => cases found

theorem Extends.wordBoundary : Extends wordBoundary wordBoundary := by
  refine .getAt fun reading => ?_
  cases found : inBrackets? reading with
  | none =>
    rw [inBrackets?_closed reading (by simp [found]), found]
    exact .returned (List.suffix_refl _)
  | some first =>
    cases first with
    | none => exact .refused
    | some first =>
      rw [inBrackets?_closed reading (by simp [found]), found]
      dsimp only
      split
      case isTrue =>
        refine (KeptAt.drop (inBrackets?_some found)).bind fun _ => Extends.skipSpace.bind fun _ =>
          .until _ fun name => ?_
        split
        · exact .pure _
        · exact .refuse
      case isFalse => exact .returned (List.suffix_refl _)

theorem Extends.escape : Extends escape escape := by
  refine .get (fun reading => Extends.next.bind fun char => ?_) fun _ => rfl
  split
  case h_1 | h_2 | h_3 => exact (Extends.hexChar _).bind fun char => .pure _
  case h_4 | h_5 => exact (Extends.propertySet _).bind fun test => .pure _
  case h_20 => exact Extends.wordBoundary.bind fun boundary => .pure _
  case h_24 => exact (Extends.require _).bind fun _ => .pure _
  all_goals exact .pure _

theorem Extends.classChar (char : Char) : Extends (classChar char) (classChar char) :=
  .get (fun _ => (Extends.require _).bind fun _ => .pure _) fun _ => rfl

theorem Extends.classItem : Extends classItem classItem := by
  refine Extends.next.bind fun char => ?_
  split
  case h_1 =>
    refine Extends.escape.bind fun escape => ?_
    cases escape with
    | char char => exact .classChar char
    | set test => exact (Extends.allowed test).bind fun _ => .pure _
    | boundary => exact .refuse
  case h_2 => exact .classChar char

theorem opensRange_closed (reading : Reading) :
    opensRange reading.closed = opensRange reading := by
  obtain ⟨_ | ⟨char, rest⟩, flags, names⟩ := reading
  · rfl
  · by_cases dash : char = '-'
    · subst dash
      have head := unspaced_head?_closed ⟨rest, flags, names⟩
      simp only [Reading.closed] at head
      simp only [opensRange, Reading.closed, List.cons_append]
      rcases head with same | ⟨none, closed⟩
      · rw [same]
      · rw [none, closed]
        rfl
    · simp [opensRange, Reading.closed, dash]

theorem opensRange_length {reading : Reading} (opens : opensRange reading = true) :
    1 ≤ reading.rest.length := by
  unfold opensRange at opens
  split at opens
  case h_1 rest dash => simp [dash]
  case h_2 => cases opens

theorem Extends.rangeOf (first last : ClassItem) :
    Extends (rangeOf first last) (rangeOf first last) := by
  unfold Pattern.rangeOf
  split
  · exact (Extends.require _).bind fun _ => .pure _
  · exact .refuse

theorem Extends.classRange : Extends classRange classRange := by
  refine Extends.classItem.bind fun first => Extends.skipSpace.bind fun _ => ?_
  refine .getAt fun reading => ?_
  have someToo : reading.closed.rest.isEmpty = false := by simp [Reading.closed, closing]
  rw [opensRange_closed, someToo]
  cases some : reading.rest.isEmpty with
  | true => exact .refused
  | false =>
    refine KeptAt.bindAt (Extends.require true reading) (fun _ after read => ?_) fun _ _ _ _ => rfl
    cases read
    split
    case isTrue opens =>
      exact (KeptAt.drop (opensRange_length opens)).bind fun _ => Extends.skipSpace.bind fun _ =>
        Extends.classItem.bind fun last => .rangeOf first last
    case isFalse => exact .returned (List.suffix_refl _)

theorem namedClass?_append_closing (negated : Bool) (chars : List Char) :
    namedClass? negated (chars ++ closing) =
      (namedClass? negated chars).map fun found => (found.1, found.2 ++ closing) := by
  unfold namedClass?
  cases dropped : chars.dropWhile (· != ':') with
  | nil =>
    have none : (chars ++ closing).dropWhile (· != ':') = [] := by
      rw [List.dropWhile_append, dropped]
      rfl
    rw [none]
    rfl
  | cons colon rest =>
    have stops : (')' != ':') = false ∨ chars.dropWhile (· != ':') ≠ [] := .inr (by simp [dropped])
    rw [dropWhile_append_closing stops, takeWhile_append_closing stops, dropped]
    dsimp only
    rw [isPrefixOf_append_closing (by decide)]
    split
    case isTrue named =>
      have long := (List.isPrefixOf_iff_prefix.mp named).length_le
      rw [List.drop_append_of_le_length (by exact long), Option.map_map]
      rfl
    case isFalse => rfl

theorem asciiClassOf?_append_closing (chars : List Char) :
    asciiClassOf? (chars ++ closing) =
      (asciiClassOf? chars).map fun found => (found.1, found.2 ++ closing) := by
  unfold asciiClassOf?
  rw [isPrefixOf_append_closing (by decide), isPrefixOf_append_closing (by decide)]
  split
  case isTrue named =>
    have long := (List.isPrefixOf_iff_prefix.mp named).length_le
    rw [List.drop_append_of_le_length (by exact long), namedClass?_append_closing]
  case isFalse =>
    split
    case isTrue named =>
      have long := (List.isPrefixOf_iff_prefix.mp named).length_le
      rw [List.drop_append_of_le_length (by exact long), namedClass?_append_closing]
    case isFalse => rfl

theorem namedClass?_suffix {negated : Bool} {chars rest : List Char} {test : CharTest}
    (found : namedClass? negated chars = some (test, rest)) : rest <:+ chars := by
  by_cases named : [':', ']'].isPrefixOf (chars.dropWhile (· != ':')) = true
  · rw [namedClass?, if_pos named] at found
    obtain ⟨_, _, same⟩ := Option.map_eq_some_iff.mp found
    cases same
    exact (List.drop_suffix ..).trans (List.dropWhile_suffix _)
  · rw [namedClass?, if_neg named] at found
    cases found

theorem asciiClassOf?_suffix {chars rest : List Char} {test : CharTest}
    (found : asciiClassOf? chars = some (test, rest)) : rest <:+ chars := by
  unfold asciiClassOf? at found
  split at found
  · exact (namedClass?_suffix found).trans (List.drop_suffix ..)
  · split at found
    · exact (namedClass?_suffix found).trans (List.drop_suffix ..)
    · cases found

theorem Extends.asciiClass : Extends asciiClass asciiClass := by
  refine .getAt fun reading => ?_
  have closes : asciiClassOf? reading.closed.rest = _ := asciiClassOf?_append_closing reading.rest
  rw [closes]
  cases found : asciiClassOf? reading.rest with
  | none => exact .returned (List.suffix_refl _)
  | some result => exact .returned (asciiClassOf?_suffix found)

theorem asciiClass_none {reading after : Reading}
    (read : asciiClass reading = some (none, after)) : after = reading := by
  rw [asciiClass, Parse.get_bind] at read
  cases found : asciiClassOf? reading.rest with
  | none =>
    rw [found] at read
    cases read
    rfl
  | some result =>
    rw [found] at read
    cases read

theorem setOperation?_append_closing (chars : List Char) :
    setOperation? (chars ++ closing) = setOperation? chars := by
  unfold setOperation?
  simp only [isPrefixOf_append_closing (show ')' ∉ ['&', '&'] by decide),
    isPrefixOf_append_closing (show ')' ∉ ['-', '-'] by decide),
    isPrefixOf_append_closing (show ')' ∉ ['~', '~'] by decide)]

theorem Extends.classOpening : Extends classOpening classOpening := by
  refine .spaced (by decide) fun dashes => ?_
  split
  · exact .pure _
  · refine (Extends.skipText (by decide)).bind fun bracket => ?_
    cases bracket <;> exact .pure _

theorem Extends.classBody_succ
    (items : ∀ waiting current, Extends (classItems first waiting current)
      (classItems second waiting current)) :
    Extends (classBody (first + 1)) (classBody (second + 1)) := by
  rw [classBody, classBody]
  refine Extends.skipSpace.bind fun _ => (Extends.skipText (by decide)).bind fun negated =>
    Extends.skipSpace.bind fun _ => Extends.classOpening.bind fun opening =>
    (items none opening).bind fun test => ?_
  exact .get (fun _ => .allowed _) fun _ => rfl

theorem setOperation?_length {chars : List Char} {operation : SetOperation}
    (found : setOperation? chars = some operation) : 2 ≤ chars.length := by
  have long : ∀ char, [char, char].isPrefixOf chars = true → 2 ≤ chars.length :=
    fun char doubled => (List.isPrefixOf_iff_prefix.mp doubled).length_le
  unfold setOperation? at found
  split at found
  case isTrue doubled => exact long _ doubled
  split at found
  case isTrue doubled => exact long _ doubled
  split at found
  case isTrue doubled => exact long _ doubled
  cases found

theorem classPart?_append_closing {chars : List Char} (inside : chars ≠ []) :
    classPart? (chars ++ closing) = classPart? chars := by
  rw [classPart?, classPart?, List.head?_append_of_ne_nil _ inside, setOperation?_append_closing]

theorem classPart?_operation {chars : List Char} {operation : SetOperation}
    (found : classPart? chars = some (.operation operation)) : 2 ≤ chars.length := by
  cases doubled : setOperation? chars with
  | some operation => exact setOperation?_length doubled
  | none =>
    unfold classPart? at found
    rw [doubled] at found
    split at found <;> cases found

theorem Extends.classItems_succ (body : Extends (classBody first) (classBody second))
    (items : ∀ waiting current, Extends (classItems first waiting current)
      (classItems second waiting current))
    (waiting : Option (CharTest × SetOperation)) (current : CharTest) :
    Extends (classItems (first + 1) waiting current) (classItems (second + 1) waiting current) := by
  rw [classItems, classItems]
  refine Extends.skipSpace.bind fun _ => .getAt fun reading => ?_
  by_cases ended : reading.rest = []
  · rw [ended]
    exact .refused
  have same : classPart? reading.closed.rest = classPart? reading.rest :=
    classPart?_append_closing ended
  rw [same]
  cases found : classPart? reading.rest with
  | none => exact .refused
  | some part =>
    cases part with
    | ends => exact (ExtendsInside.drop reading ended).bind fun _ => .pure _
    | nested =>
      refine KeptAt.bindAt (Extends.asciiClass reading) (fun named after read => ?_)
        fun _ _ _ _ => rfl
      cases named with
      | some test => exact (Extends.allowed test).bind (fun _ => items _ _) after
      | none =>
        cases asciiClass_none read
        exact (ExtendsInside.drop reading ended).bind fun _ => body.bind fun nested => items _ _
    | operation operation =>
      exact (KeptAt.drop (classPart?_operation found)).bind fun _ => items _ _
    | range => exact (Extends.classRange reading).bind fun test => items _ _

theorem Extends.classes (more : first ≤ second) :
    Extends (classBody first) (classBody second) ∧
      ∀ waiting current, Extends (classItems first waiting current)
        (classItems second waiting current) := by
  induction first generalizing second with
  | zero => exact ⟨.refuse, fun _ _ => .refuse⟩
  | succ first induction =>
    obtain ⟨second, rfl⟩ := Nat.exists_eq_add_of_le' (Nat.one_le_of_lt more)
    obtain ⟨body, items⟩ := induction (Nat.le_of_succ_le_succ more)
    exact ⟨.classBody_succ items, .classItems_succ body items⟩

/-! ## Groups and repetitions -/

theorem Extends.decimal : Extends decimal decimal := by
  refine (Extends.takeWhile (by decide)).bind fun _ => .spaced (by decide) fun digits => ?_
  refine (Extends.takeWhile (by decide)).bind fun _ => (Extends.require _).bind fun _ => ?_
  exact (Extends.require _).bind fun _ => .pure _

theorem Extends.upTo (least : Nat) : Extends (upTo least) (upTo least) := by
  refine (Extends.skipText (by decide)).bind fun comma => ?_
  cases comma with
  | false => exact .pure _
  | true =>
    have bounded := Extends.decimal.bind fun most => .pure (some most)
    refine Extends.skipSpace.bind fun _ => .peek (fun char => Extends.inside ?_) bounded bounded
    split
    · exact .pure _
    · exact bounded

theorem Extends.counts : Extends counts counts := by
  refine Extends.skipSpace.bind fun _ => Extends.decimal.bind fun least =>
    (Extends.upTo least).bind fun most => (Extends.expect _).bind fun _ => ?_
  exact (Extends.require _).bind fun _ => .pure _

theorem Extends.flagLetters (more : first ≤ second) (seen : List Char) (value : Bool)
    (flags : Flags) :
    Extends (flagLetters first seen value flags) (flagLetters second seen value flags) := by
  induction first generalizing second seen value flags with
  | zero => exact .refuse
  | succ first induction =>
    obtain ⟨second, rfl⟩ := Nat.exists_eq_add_of_le' (Nat.one_le_of_lt more)
    have more := Nat.le_of_succ_le_succ more
    rw [Pattern.flagLetters, Pattern.flagLetters]
    refine .peek (fun letter => ?_) .refuse .refuse
    split
    · exact ((Extends.require _).bind fun _ => .pure _).inside
    · exact ((Extends.require _).bind fun _ => .pure _).inside
    · refine ExtendsInside.drop.bind fun _ => (Extends.require _).bind fun _ => ?_
      split
      · exact induction more _ _ _
      · split
        · exact .refuse
        · exact induction more _ _ _
    · exact Extends.refuse.inside

theorem Extends.groupName : Extends groupName groupName := by
  intro reading
  by_cases ended : reading.rest.dropWhile (· != '>') = []
  · rw [Pattern.groupName, Parse.bind_of_eq (rfl : Parse.takeWhile _ reading = some (_, _))]
    rw [ended]
    exact .refused
  · refine (KeptAt.takeWhile (.inr ended)).bind fun name => (Extends.expect _).bind fun _ => ?_
    split
    · exact .refuse
    · refine (Extends.require _).bind fun _ => .get (fun reading => ?_) fun _ => rfl
      exact (Extends.require _).bind fun _ => .modify (fun _ => rfl) fun _ => rfl

theorem Extends.nameOpening : Extends nameOpening nameOpening := by
  refine (Extends.skipText (by decide)).bind fun found => ?_
  cases found with
  | true => exact .pure _
  | false => exact .skipText (by decide)

theorem Extends.plainChar (char : Char) : Extends (plainChar char) (plainChar char) := by
  refine .get (fun reading => ?_) fun _ => rfl
  split
  case h_1 => exact (Extends.allowed _).bind fun _ => .pure _
  all_goals exact .pure _

theorem Extends.primitive (more : first ≤ second) :
    Extends (primitive first) (primitive second) := by
  refine Extends.next.bind fun char => ?_
  split
  case h_1 =>
    refine Extends.escape.bind fun escape => ?_
    cases escape with
    | char char => exact .get (fun _ => .pure _) fun _ => rfl
    | set test => exact (Extends.allowed test).bind fun _ => .pure _
    | boundary boundary => exact .pure _
  case h_2 => exact (Extends.classes more).1.bind fun _ => .pure _
  case h_3 => exact .plainChar char

theorem Extends.repeatLast (least : Nat) (most : Option Nat) (parts : Parts) :
    Extends (repeatLast least most parts) (repeatLast least most parts) := by
  unfold Pattern.repeatLast
  split
  · exact .pure _
  · exact .refuse

/-- What the four parts of the grammar of sequences read with less time, they read with more. -/
structure Extended (first second : Nat) : Prop where
  alternatives : Extends (alternatives first) (alternatives second)
  sequence : ∀ parts, Extends (sequence first parts) (sequence second parts)
  group : Extends (group first) (group second)
  closeGroup : ∀ outside, Extends (closeGroup first outside) (closeGroup second outside)

theorem Extended.alternatives_succ (extended : Extended first second) :
    Extends (Pattern.alternatives (first + 1)) (Pattern.alternatives (second + 1)) := by
  rw [Pattern.alternatives, Pattern.alternatives]
  refine (extended.sequence []).bind fun part => (Extends.skipText (by decide)).bind fun bar => ?_
  cases bar with
  | true => exact extended.alternatives.bind fun rest => .pure _
  | false => exact .pure _

theorem Extended.sequence_succ (extended : Extended first second) (more : first ≤ second)
    (parts : Parts) :
    Extends (Pattern.sequence (first + 1) parts) (Pattern.sequence (second + 1) parts) := by
  rw [Pattern.sequence, Pattern.sequence]
  refine Extends.skipSpace.bind fun _ => .peek (fun char => ?_) (.pure _) (.pure _)
  split
  case h_1 | h_2 | h_3 => exact (Extends.pure _).inside
  case h_4 =>
    exact ExtendsInside.drop.bind fun _ => extended.group.bind fun part => extended.sequence _
  case h_5 | h_6 | h_7 =>
    refine (Extends.next.bind fun sign => (Extends.skipText (by decide)).bind fun _ => ?_).inside
    exact (Extends.repeatLast _ _ parts).bind fun parts => extended.sequence parts
  case h_8 =>
    refine ExtendsInside.drop.bind fun _ => Extends.counts.bind fun counts =>
      Extends.skipSpace.bind fun _ => (Extends.skipText (by decide)).bind fun _ => ?_
    exact (Extends.repeatLast _ _ parts).bind fun parts => extended.sequence parts
  case h_9 =>
    exact ((Extends.primitive more).bind fun part => extended.sequence _).inside

theorem Extended.group_succ (extended : Extended first second) (more : first ≤ second) :
    Extends (Pattern.group (first + 1)) (Pattern.group (second + 1)) := by
  rw [Pattern.group, Pattern.group]
  refine .get (fun outside => Extends.skipSpace.bind fun _ =>
    (Extends.anyStartsWith (by decide)).bind fun looks => (Extends.require _).bind fun _ =>
    Extends.nameOpening.bind fun named => ?_) fun _ => rfl
  cases named with
  | true => exact Extends.groupName.bind fun _ => extended.closeGroup _
  | false =>
    refine (Extends.skipText (by decide)).bind fun flagged => ?_
    cases flagged with
    | false => exact extended.closeGroup _
    | true =>
      refine (Extends.flagLetters more _ _ _).bind fun letters => Extends.next.bind fun sign =>
        (Extends.withFlags _).bind fun _ => ?_
      split
      · exact (Extends.require _).bind fun _ => .pure _
      · exact extended.closeGroup _

theorem Extended.closeGroup_succ (extended : Extended first second) (outside : Flags) :
    Extends (Pattern.closeGroup (first + 1) outside) (Pattern.closeGroup (second + 1) outside) := by
  rw [Pattern.closeGroup, Pattern.closeGroup]
  exact extended.alternatives.bind fun body => (Extends.expect _).bind fun _ =>
    (Extends.withFlags outside).bind fun _ => .pure _

theorem Extended.of_le (more : first ≤ second) : Extended first second := by
  induction first generalizing second with
  | zero => exact ⟨.refuse, fun _ => .refuse, .refuse, fun _ => .refuse⟩
  | succ first induction =>
    obtain ⟨second, rfl⟩ := Nat.exists_eq_add_of_le' (Nat.one_le_of_lt more)
    have more := Nat.le_of_succ_le_succ more
    have extended := induction more
    exact ⟨extended.alternatives_succ, extended.sequence_succ more, extended.group_succ more,
      extended.closeGroup_succ⟩

/-! ## Between anchors -/

/-- The pattern between anchors. -/
def anchored (pattern : Pattern) : Pattern :=
  .seq (.check .textStart) (.seq pattern (.seq (.check .textEnd) .empty))

theorem sequence_start (fuel : Nat) (parts : Parts) (rest : List Char) :
    sequence (fuel + 1) parts { rest := '^' :: rest } =
      sequence fuel ((.check .textStart, true) :: parts) { rest } := by
  rw [sequence]
  rfl

theorem sequence_end (fuel : Nat) (parts : Parts) (names : List (List Char)) :
    sequence (fuel + 2) parts { rest := ['$'], names } =
      some (ofParts ((.check .textEnd, true) :: parts), { rest := [], names }) := by
  rw [sequence]
  rfl

theorem sequence_group (fuel : Nat) (parts : Parts) (rest : List Char) :
    sequence (fuel + 4) parts { rest := '(' :: '?' :: ':' :: rest } =
      (closeGroup (fuel + 2) {} >>= fun part => sequence (fuel + 3) (part :: parts)) { rest } := by
  rw [sequence]
  rfl

section

variable {fuel : Nat} {reading : Reading} {body : Pattern} {names : List (List Char)}

theorem closeGroup_refused (outside : Flags) {flags : Flags}
    (read : alternatives fuel reading = some (body, { rest := [], flags, names })) :
    closeGroup (fuel + 1) outside reading = none := by
  rw [closeGroup, Parse.bind_of_eq read]
  rfl

theorem closeGroup_closed (outside : Flags) {flags : Flags} {rest : List Char}
    (read : alternatives fuel reading = some (body, { rest := ')' :: rest, flags, names })) :
    closeGroup (fuel + 1) outside reading =
      some ((body, true), { rest, flags := outside, names }) := by
  rw [closeGroup, Parse.bind_of_eq read]
  rfl

end

theorem ofText?_eq_some {text : String} {pattern : Pattern} :
    ofText? text = some pattern ↔ ∃ flags names,
      alternatives (8 * text.toList.length + 8) { rest := text.toList } =
        some (pattern, { rest := [], flags, names }) := by
  simp only [ofText?, StateT.run]
  constructor
  · intro read
    split at read
    case h_1 pattern reading found =>
      obtain ⟨_ | ⟨char, rest⟩, flags, names⟩ := reading
      · cases read
        exact ⟨flags, names, found⟩
      · cases read
    case h_2 => cases read
  · rintro ⟨flags, names, found⟩
    rw [found]
    rfl

/-- What is read first of a text between anchors. -/
theorem alternatives_anchored (fuel : Nat) (rest : List Char) :
    alternatives (fuel + 7) { rest := '^' :: '(' :: '?' :: ':' :: rest } =
      (closeGroup (fuel + 3) {} >>= fun part =>
        sequence (fuel + 4) [part, (.check .textStart, true)] >>= fun whole => do
          if ← skipText "|" then return .either whole (← alternatives (fuel + 6))
          return whole : Parse Pattern) { rest } := by
  rw [alternatives, ← bind_assoc]
  exact Parse.bind_congr ((sequence_start (fuel + 5) ..).trans (sequence_group (fuel + 1) ..))

/-- A text that is a pattern by itself is the same pattern between anchors, unless a comment has
taken in the closing anchor. -/
theorem ofText?_anchored {source : String} {pattern : Pattern}
    (alone : ofText? source = some pattern) :
    ofText? ("^(?:" ++ source ++ ")$") = some (anchored pattern) ∨
      '#' ∈ source.toList ∧ ofText? ("^(?:" ++ source ++ ")$") = none := by
  obtain ⟨flags, names, read⟩ := ofText?_eq_some.mp alone
  have text : ("^(?:" ++ source ++ ")$").toList =
      '^' :: '(' :: '?' :: ':' :: (source.toList ++ closing) := by simp [closing]
  have fuel : 8 * ("^(?:" ++ source ++ ")$").toList.length + 8 = 8 * source.toList.length + 56 := by
    simp only [text, List.length_cons, List.length_append, closing, List.length_nil]
    omega
  have more : 8 * source.toList.length + 8 ≤ 8 * source.toList.length + 51 := by omega
  obtain ⟨_, _, left | ⟨_, comment, taken⟩⟩ := (Extended.of_le more).alternatives _ _ _ read
  · left
    refine ofText?_eq_some.mpr ⟨{}, names, ?_⟩
    rw [fuel, text]
    refine (alternatives_anchored ..).trans <|
      (Parse.bind_of_eq (closeGroup_closed {} left)).trans (Parse.bind_of_eq (sequence_end ..))
  · right
    have refused : alternatives (8 * source.toList.length + 56)
        { rest := '^' :: '(' :: '?' :: ':' :: (source.toList ++ closing) } = none :=
      (alternatives_anchored ..).trans (Parse.bind_none (closeGroup_refused {} taken))
    refine ⟨comment, Option.eq_none_iff_forall_ne_some.mpr fun other accepted => ?_⟩
    obtain ⟨_, _, read⟩ := ofText?_eq_some.mp accepted
    rw [fuel, text, refused] at read
    cases read

end CodeGraph.Pattern
