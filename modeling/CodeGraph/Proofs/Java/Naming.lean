import CodeGraph.Proofs.Java.Reading

/-!
# The names in a parsed source

A token of a source has characters, and reading gives the role of a name to the trees of
single identifiers only.  So no name in a parsed source is empty.
-/

namespace CodeGraph.Java

/-- The span has characters, and they are among the first `length` ones. -/
def Span.Within (length : Nat) (span : Span) : Prop :=
  span.start < span.stop ∧ span.stop ≤ length

/-! ## Tokens have characters -/

namespace Lexer

theorem textFront_token {block : Bool} {outer after : List Frame} {chars : List Char}
    {sort : TokenSort} {length : Nat}
    (found : textFront block outer chars = some (.token sort, length, after)) : 0 < length := by
  unfold textFront at found
  split at found
  next =>
    split at found <;> cases found
    · exact Nat.two_pos
    · cases block <;> decide
  next => cases found

/-- A token without characters would leave open what was open. -/
theorem codeFront_token {frames after : List Frame} {chars : List Char} {sort : TokenSort}
    {length : Nat} (found : codeFront frames chars = some (.token sort, length, after)) :
    0 < length ∨ after = frames := by
  unfold codeFront at found
  split at found
  case h_1 | h_2 => cases found
  case h_3 =>
    obtain ⟨taken, -, same⟩ := Option.map_eq_some_iff.mp found
    cases same
  case h_4 | h_5 | h_7 | h_8 => cases found; exact .inl (Nat.succ_pos _)
  case h_6 =>
    obtain ⟨taken, -, same⟩ := Option.map_eq_some_iff.mp found
    cases same
    exact .inr rfl
  case h_9 =>
    dsimp only at found
    split at found
    next => cases found
    next =>
      split at found
      next => cases found; exact .inr rfl
      next =>
        split at found
        next => cases found; exact .inr rfl
        next =>
          obtain ⟨taken, -, same⟩ := Option.map_eq_some_iff.mp found
          cases same
          exact .inr rfl

theorem front_token {frames after : List Frame} {chars : List Char} {sort : TokenSort}
    {length : Nat} (found : front frames chars = some (.token sort, length, after)) :
    0 < length ∨ after = frames := by
  unfold front at found
  split at found
  next => exact .inl (textFront_token found)
  next => exact codeFront_token found

theorem frames_cut (cutting : Cutting) (piece : PieceSort) (taken : List Char)
    (frames : List Frame) : (cutting.cut piece taken frames).frames = frames := by
  cases piece <;> rfl

theorem place_cut (cutting : Cutting) (piece : PieceSort) (taken : List Char)
    (frames : List Frame) :
    (cutting.cut piece taken frames).place = cutting.place + taken.length := by
  cases piece <;> rfl

theorem cutAll_cons (fuel : Nat) (cutting : Cutting) (first : Char) (rest : List Char) :
    cutAll (fuel + 1) cutting (first :: rest) =
      match front cutting.frames (first :: rest) with
      | none => none
      | some (piece, length, frames) =>
          cutAll fuel (cutting.cut piece ((first :: rest).take length) frames)
            ((first :: rest).drop length) := rfl

/-- Where nothing is cut off and nothing changes, cutting never comes to the end. -/
theorem cutAll_eq_none_of_stuck {cutting : Cutting} {piece : PieceSort} {first : Char}
    {rest : List Char}
    (stuck : front cutting.frames (first :: rest) = some (piece, 0, cutting.frames))
    (fuel : Nat) : cutAll fuel cutting (first :: rest) = none := by
  induction fuel generalizing cutting with
  | zero => rfl
  | succ fuel induction =>
      rw [cutAll_cons, stuck]
      refine induction ?_
      rw [frames_cut]
      exact stuck

/-- What each cut keeps of a cutting and the characters that are left is true at the end. -/
theorem cutAll_induction {motive : Cutting → List Char → Prop}
    (step : ∀ {fuel cutting first rest piece length frames},
      cutAll (fuel + 1) cutting (first :: rest) ≠ none →
      front cutting.frames (first :: rest) = some (piece, length, frames) →
      motive cutting (first :: rest) →
      motive (cutting.cut piece ((first :: rest).take length) frames)
        ((first :: rest).drop length))
    {fuel : Nat} {cutting final : Cutting} {chars : List Char} (start : motive cutting chars)
    (done : cutAll fuel cutting chars = some final) : motive final [] := by
  have atEnd {fuel : Nat} {cutting : Cutting} (start : motive cutting [])
      (done : cutAll fuel cutting [] = some final) : motive final [] := by
    rw [cutAll] at done
    split at done <;> cases done
    exact start
  induction fuel generalizing cutting chars with
  | zero =>
      cases chars with
      | nil => exact atEnd start done
      | cons first rest => cases done
  | succ fuel induction =>
      cases chars with
      | nil => exact atEnd start done
      | cons first rest =>
          have whole : cutAll (fuel + 1) cutting (first :: rest) ≠ none := by simp [done]
          rw [cutAll_cons] at done
          split at done
          next => cases done
          next piece length frames found => exact induction (step whole found start) done

theorem cutAll_within {total fuel : Nat} {cutting final : Cutting} {chars : List Char}
    (whole : cutting.place + chars.length = total)
    (before : ∀ token ∈ cutting.tokens, token.span.Within total)
    (done : cutAll fuel cutting chars = some final) :
    ∀ token ∈ final.tokens, token.span.Within total := by
  refine (cutAll_induction (motive := fun cutting chars =>
    cutting.place + chars.length = total ∧ ∀ token ∈ cutting.tokens, token.span.Within total)
    ?_ ⟨whole, before⟩ done).2
  rintro fuel cutting first rest piece length frames goesOn found ⟨whole, before⟩
  constructor
  · rw [place_cut, List.length_take, List.length_drop]
    omega
  · cases piece with
    | skipped => exact before
    | comment => exact before
    | token sort =>
        -- a token of no length would be cut off again until the fuel is used up
        have taken : 0 < length := by
          refine Nat.pos_of_ne_zero fun nothing => ?_
          subst nothing
          rcases front_token found with positive | same
          · exact absurd positive (Nat.lt_irrefl 0)
          · rw [same] at found
            exact goesOn (cutAll_eq_none_of_stuck found _)
        refine List.forall_mem_cons.mpr ⟨?_, before⟩
        have size := List.length_take (i := length) (l := first :: rest)
        rw [List.length_cons] at size whole
        constructor <;> dsimp only <;> omega

end Lexer

theorem Tokens.within_of_ofChars? {chars : List Char} {source : Tokens}
    (cut : Tokens.ofChars? chars = some source) :
    ∀ token ∈ source.tokens, token.span.Within chars.length := by
  obtain ⟨final, done, same⟩ := Option.map_eq_some_iff.mp cut
  subst same
  have whole : (if chars.head? == some '\uFEFF' then 1 else 0) +
      (chars.drop (if chars.head? == some '\uFEFF' then 1 else 0)).length = chars.length := by
    cases chars with
    | nil => rfl
    | cons first rest =>
        rw [List.length_drop, List.length_cons]
        split <;> omega
  intro token member
  exact Lexer.cutAll_within whole (fun _ member => absurd member List.not_mem_nil) done token
    (List.mem_reverse.mp member)

/-! ## Trees whose names are tokens -/

namespace Tree

/-- Everything in the tree that has the role of a name has a span with the property. -/
def Names (property : Span → Prop) (tree : Tree) : Prop :=
  ∀ part ∈ tree.subtrees, part.role = some .name → property part.span

variable {property : Span → Prop}

theorem names_iff_marks {tree : Tree} :
    tree.Names property ↔ tree.Marks .name fun _ span => property span := Iff.rfl

theorem names_iff {tree : Tree} :
    tree.Names property ↔ (tree.role = some .name → property tree.span) ∧
      ∀ child ∈ tree.children, child.Names property :=
  names_iff_marks.trans marks_iff

theorem names_of_children {construct : Construct} {span : Span} {children : List Tree}
    (each : ∀ child ∈ children, child.Names property) :
    Names property { construct, span, children } :=
  names_iff_marks.mpr (marks_of_children each)

theorem Names.inRole {tree : Tree} (names : tree.Names property) {role : Option Role}
    (other : role ≠ some .name) : (tree.inRole role).Names property :=
  names_iff_marks.mpr ((names_iff_marks.mp names).inRole fun same => absurd same other)

end Tree

/-! ## Phrases that give names to identifiers only -/

namespace Phrase

variable {ρ : Type}

mutual

/-- Does the phrase give the role of a name to single identifiers only? -/
def namesIdentifiers : Phrase ρ → Bool
  | shows _ | identifier _ | literal | rule _ => true
  | all parts => allNameIdentifiers parts
  | any choices => allNameIdentifiers choices
  | optional phrase | many phrase | node _ phrase => namesIdentifiers phrase
  | inRole .name (identifier _) => true
  | inRole .name _ => false
  | inRole _ phrase => namesIdentifiers phrase
  | extended start extensions =>
      namesIdentifiers start && extensionsNameIdentifiers extensions

def allNameIdentifiers : List (Phrase ρ) → Bool
  | [] => true
  | phrase :: phrases => namesIdentifiers phrase && allNameIdentifiers phrases

/-- Extensions also do not make a name of what they extend. -/
def extensionsNameIdentifiers : List (Construct × Option Role × Phrase ρ) → Bool
  | [] => true
  | (_, role, phrase) :: extensions =>
      role != some .name && namesIdentifiers phrase && extensionsNameIdentifiers extensions

end

theorem allNameIdentifiers_eq (phrases : List (Phrase ρ)) :
    allNameIdentifiers phrases = phrases.all namesIdentifiers := by
  induction phrases with
  | nil => rfl
  | cons first rest induction => rw [allNameIdentifiers, induction, List.all_cons]

theorem extensionsNameIdentifiers_eq (extensions : List (Construct × Option Role × Phrase ρ)) :
    extensionsNameIdentifiers extensions =
      extensions.all fun extension =>
        extension.2.1 != some .name && extension.2.2.namesIdentifiers := by
  induction extensions with
  | nil => rfl
  | cons first rest induction => rw [extensionsNameIdentifiers, induction, List.all_cons]

theorem inRole_cases {role : Role} {phrase : Phrase ρ}
    (names : (inRole role phrase).namesIdentifiers = true) :
    (role = .name ∧ ∃ construct, phrase = identifier construct) ∨
      (role ≠ .name ∧ phrase.namesIdentifiers = true) := by
  cases role
  case name => cases phrase <;> first | exact .inl ⟨rfl, _, rfl⟩ | cases names
  all_goals exact .inr ⟨nofun, names⟩

end Phrase

theorem Rule.namesIdentifiers_phrase (rule : Rule) : (phrase rule).namesIdentifiers = true := by
  cases rule <;> rfl

theorem Rule.namesIdentifiers_program : program.namesIdentifiers = true := rfl

/-! ## What is read -/

namespace Grammar

variable {ρ : Type} {property : Span → Prop}

/-- The spans of all identifiers that follow have the property. -/
def Place.Holds (property : Span → Prop) (place : Place) : Prop :=
  ∀ token ∈ place.tokens, token.isIdentifier = true → property token.span

/-- The trees have names with the property only, and so have the tokens that follow. -/
def Named (property : Span → Prop) (reading : List Tree × Place) : Prop :=
  (∀ tree ∈ reading.1, tree.Names property) ∧ reading.2.Holds property

theorem Place.Holds.first {place : Place} (holds : place.Holds property) {token : Token}
    {rest : List Token} (cut : place.tokens = token :: rest) :
    (token.isIdentifier = true → property token.span) ∧
      (Place.after token rest).Holds property := by
  unfold Holds at holds
  rw [cut] at holds
  exact List.forall_mem_cons.mp holds

theorem Named.nothing {place : Place} (holds : place.Holds property) :
    Named property ([], place) := by
  refine ⟨fun tree member => ?_, holds⟩
  cases member

theorem Named.append {trees more : List Tree} {middle finish : Place}
    (first : Named property (trees, middle)) (rest : Named property (more, finish)) :
    Named property (trees ++ more, finish) := by
  refine ⟨fun tree member => ?_, rest.2⟩
  rcases List.mem_append.mp member with early | late
  · exact first.1 tree early
  · exact rest.1 tree late

theorem Named.single {tree : Tree} {place : Place} (names : tree.Names property)
    (holds : place.Holds property) : Named property ([tree], place) := by
  refine ⟨fun only member => ?_, holds⟩
  cases List.mem_singleton.mp member
  exact names

/-- A token becomes a tree without a role. -/
theorem named_token {place : Place} (holds : place.Holds property) {token : Token}
    {rest : List Token} (cut : place.tokens = token :: rest) (construct : Construct) :
    Named property ([{ construct, span := token.span }], .after token rest) :=
  .single (Tree.names_of_children fun _ member => nomatch member) (holds.first cut).2

theorem named_inRole_identifier {grammar : Grammar ρ} {construct : Construct}
    {place finish : Place} {trees : List Tree} (holds : place.Holds property)
    (reads : Reads grammar (.identifier construct) place trees finish) (role : Role) :
    Named property (trees.map (·.inRole role), finish) := by
  cases reads with
  | identifier cut isIdentifier =>
    obtain ⟨here, later⟩ := holds.first cut
    exact .single
      (Tree.names_iff.mpr ⟨fun _ => here isIdentifier, fun _ member => nomatch member⟩) later

theorem Named.inRole {trees : List Tree} {finish : Place} (named : Named property (trees, finish))
    {role : Option Role} (other : role ≠ some .name) :
    ∀ tree ∈ trees.map (·.inRole role), tree.Names property := by
  intro tree member
  obtain ⟨plain, isTree, rfl⟩ := List.mem_map.mp member
  exact (named.1 plain isTree).inRole other

/-- What is read has names with the property only, if the identifiers that follow have it. -/
theorem Reads.named {grammar : Grammar ρ}
    (rules : ∀ name, (grammar name).namesIdentifiers = true) {phrase : Phrase ρ}
    {place finish : Place} {trees : List Tree} (reads : Reads grammar phrase place trees finish)
    (names : phrase.namesIdentifiers = true) (holds : place.Holds property) :
    Named property (trees, finish) := by
  induction reads with
  | shows cut => exact .nothing (holds.first cut).2
  | identifier cut => exact named_token holds cut _
  | literal cut => exact named_token holds cut .other
  | rule _ induction => exact induction (rules _) holds
  | allNil | absent | manyNil => exact .nothing holds
  | allCons _ _ first rest =>
    rw [Phrase.namesIdentifiers, Phrase.allNameIdentifiers, Bool.and_eq_true] at names
    have here := first names.1 holds
    exact here.append (rest names.2 here.2)
  | any isChoice _ induction =>
    rw [Phrase.namesIdentifiers, Phrase.allNameIdentifiers_eq, List.all_eq_true] at names
    exact induction (names _ isChoice) holds
  | present _ induction => exact induction names holds
  | manyCons _ _ first rest =>
    have here := first names holds
    exact here.append (rest names here.2)
  | node _ induction =>
    have below := induction names holds
    exact .single (Tree.names_of_children below.1) below.2
  | inRole inner induction =>
    rcases Phrase.inRole_cases names with ⟨isName, construct, rfl⟩ | ⟨other, names⟩
    · exact named_inRole_identifier holds inner _
    · have named := induction names holds
      exact ⟨named.inRole (fun same => other (Option.some.inj same)), named.2⟩
  | unextended _ induction =>
    rw [Phrase.namesIdentifiers, Bool.and_eq_true] at names
    exact induction names.1 holds
  | extended isExtension _ _ before added =>
    have named := before names holds
    rw [Phrase.namesIdentifiers, Bool.and_eq_true, Phrase.extensionsNameIdentifiers_eq,
      List.all_eq_true] at names
    obtain ⟨other, phraseNames⟩ := Bool.and_eq_true_iff.mp (names.2 _ isExtension)
    have more := added phraseNames named.2
    refine .single (Tree.names_of_children fun child member => ?_) more.2
    rcases List.mem_append.mp member with isBefore | isAdded
    · exact named.inRole (by simpa using other) child isBefore
    · exact more.1 child isAdded

end Grammar

/-- Whatever has the role of a name in the tree of a source stands where an identifier does. -/
theorem Tree.names_of_identifiers {property : Span → Prop} {chars : List Char} {tree : Tree}
    (holds : ∀ source, Tokens.ofChars? chars = some source →
      ∀ token ∈ source.tokens, token.isIdentifier = true → property token.span)
    (parsed : ofChars? chars = some tree) : tree.Names property := by
  obtain ⟨source, children, finish, cut, reads, rfl⟩ := reads_of_ofChars? parsed
  have named :=
    reads.named Rule.namesIdentifiers_phrase Rule.namesIdentifiers_program (holds source cut)
  have marked := fun tree isTree => names_iff_marks.mp (named.1 tree isTree)
  exact names_of_children fun part member => names_iff_marks.mpr (marks_weave marked _ part member)

/-- Whatever has the role of a name in the tree of a source has characters there. -/
theorem Tree.names_of_ofChars? {chars : List Char} {tree : Tree}
    (parsed : ofChars? chars = some tree) : tree.Names (Span.Within chars.length) :=
  names_of_identifiers
    (fun _ cut token member _ => Tokens.within_of_ofChars? cut token member) parsed

end CodeGraph.Java
