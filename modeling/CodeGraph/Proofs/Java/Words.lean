import CodeGraph.Proofs.Java.Sourced

/-!
# The characters of names

The names in a parsed source are single words.  So there is no dot in a name, whatever letters
the table of letters has.
-/

namespace CodeGraph.Java

/-- The characters of a source from the start to the end of the span. -/
def Span.cut (span : Span) (chars : List Char) : List Char :=
  (chars.drop span.start).take (span.stop - span.start)

theorem Tree.chars_eq_cut (chars : List Char) (tree : Tree) :
    tree.chars chars.toArray = tree.span.cut chars := by
  rw [Tree.chars, Array.toList_extract, List.extract_eq_take_drop]
  rfl

namespace Lexer

/-- A word goes on as long as it can. -/
theorem codeFront_word {frames after : List Frame} {chars : List Char} {length : Nat}
    (found : codeFront frames chars = some (.token .word, length, after)) :
    length = run isWordPart chars := by
  unfold codeFront at found
  split at found
  case h_1 | h_2 => cases found
  case h_3 | h_6 =>
    obtain ⟨taken, -, same⟩ := Option.map_eq_some_iff.mp found
    cases same
  case h_4 | h_5 | h_7 | h_8 => cases found
  case h_9 =>
    dsimp only at found
    split at found
    next => cases found
    next =>
      split at found
      next => cases found; rfl
      next =>
        split at found
        next => cases found
        next =>
          obtain ⟨taken, -, same⟩ := Option.map_eq_some_iff.mp found
          cases same

theorem front_word {frames after : List Frame} {chars : List Char} {length : Nat}
    (found : front frames chars = some (.token .word, length, after)) :
    length = run isWordPart chars := by
  unfold front at found
  split at found
  next =>
    unfold textFront at found
    split at found
    next => split at found <;> cases found
    next => cases found
  next => exact codeFront_word found

/-- The word tokens of a source have nothing else in them than parts of words. -/
def Words (whole : List Char) (tokens : List Token) : Prop :=
  ∀ token ∈ tokens, token.sort = .word → ∀ char ∈ token.span.cut whole, isWordPart char = true

theorem drop_min_length {α : Type} (count : Nat) (list : List α) :
    list.drop (min count list.length) = list.drop count := by
  rw [← List.drop_eq_drop_min]

theorem take_run (test : Char → Bool) (chars : List Char) :
    chars.take (run test chars) = chars.takeWhile test :=
  (List.prefix_iff_eq_take.mp (List.takeWhile_prefix test)).symm

/-- What is cut off stands in the source at the place that has been reached. -/
theorem cut_taken {whole chars : List Char} {place : Nat} (left : whole.drop place = chars)
    (length line : Nat) :
    Span.cut ⟨place, place + (chars.take length).length, line⟩ whole = chars.take length := by
  rw [Span.cut, left, Nat.add_sub_cancel_left, List.length_take]
  exact (List.take_eq_take_min ..).symm

theorem cutAll_words {whole : List Char} {fuel : Nat} {cutting final : Cutting}
    {chars : List Char} (left : whole.drop cutting.place = chars)
    (before : Words whole cutting.tokens) (done : cutAll fuel cutting chars = some final) :
    Words whole final.tokens := by
  refine (cutAll_induction (motive := fun cutting chars =>
    whole.drop cutting.place = chars ∧ Words whole cutting.tokens) ?_ ⟨left, before⟩ done).2
  rintro fuel cutting first rest piece length frames - found ⟨left, before⟩
  constructor
  · rw [place_cut, ← List.drop_drop, left, List.length_take]
    exact drop_min_length length (first :: rest)
  · cases piece with
    | skipped => exact before
    | comment => exact before
    | token sort =>
        refine List.forall_mem_cons.mpr ⟨fun isWord char member => ?_, before⟩
        dsimp only at isWord
        subst isWord
        rw [cut_taken left, front_word found, take_run] at member
        exact List.all_eq_true.mp List.all_takeWhile char member

end Lexer

theorem Tokens.words_of_ofChars? {chars : List Char} {source : Tokens}
    (cut : Tokens.ofChars? chars = some source) : Lexer.Words chars source.tokens := by
  obtain ⟨final, done, same⟩ := Option.map_eq_some_iff.mp cut
  subst same
  intro token member
  exact Lexer.cutAll_words rfl (fun _ member => absurd member List.not_mem_nil) done token
    (List.mem_reverse.mp member)

/-- The names of types in a parsed source are words. -/
theorem Source.isWordPart_of_namesType {chars : List Char} {tree : Tree}
    (parsed : Tree.ofChars? chars = some tree) {name : String}
    (names : (Source.ofTree chars.toArray tree).NamesType tree name) :
    ∀ char ∈ name.toList, Lexer.isWordPart char = true := by
  have words : tree.Names fun span =>
      ∀ char ∈ span.cut chars, Lexer.isWordPart char = true := by
    refine Tree.names_of_identifiers (fun source cut token isToken isIdentifier => ?_) parsed
    exact Tokens.words_of_ofChars? cut token isToken
      (beq_iff_eq.mp (Bool.and_eq_true_iff.mp isIdentifier).1)
  obtain ⟨part, isWord, rfl⟩ := exists_name_of_namesType words names
  rw [Tree.textIn, String.toList_ofList, Tree.chars_eq_cut]
  exact isWord

theorem Source.dot_not_mem_of_namesType {chars : List Char} {tree : Tree}
    (parsed : Tree.ofChars? chars = some tree) {name : String}
    (names : (Source.ofTree chars.toArray tree).NamesType tree name) : '.' ∉ name.toList :=
  fun isDot => absurd (isWordPart_of_namesType parsed names '.' isDot) (by decide)

end CodeGraph.Java
