import CodeGraph.Proofs.Statement.Lexing

/-!
# Strings as literals

In a literal a string stands with a backslash in front of each backslash and each quote.  The
literal ends at the quote behind the string and at none before, and resolving the escapes gives
the string back, so that there is a literal for every string in either sort of quotes.
-/

namespace CodeGraph.Lexer

namespace Literal

/-- The characters with a backslash in front of each backslash and each quote. -/
def escape (quote : Char) (chars : List Char) : List Char :=
  chars.flatMap fun char => if char = '\\' ∨ char = quote then ['\\', char] else [char]

/-- The literal for a string. -/
def spell (quote : Char) (value : String) : String :=
  String.ofList (quote :: (escape quote value.toList ++ [quote]))

theorem escape_cons_of_special {quote char : Char} (special : char = '\\' ∨ char = quote)
    (chars : List Char) :
    escape quote (char :: chars) = '\\' :: char :: escape quote chars := by
  simp only [escape, List.flatMap_cons, if_pos special, List.cons_append, List.nil_append]

theorem escape_cons_of_ordinary {quote char : Char} (ordinary : ¬(char = '\\' ∨ char = quote))
    (chars : List Char) : escape quote (char :: chars) = char :: escape quote chars := by
  simp only [escape, List.flatMap_cons, if_neg ordinary, List.cons_append, List.nil_append]

end Literal

/-! ## Resolving escapes -/

theorem unescape_escaped {char : Char} (noFeed : char ≠ 'n') (noTab : char ≠ 't')
    (rest : List Char) : unescape ('\\' :: char :: rest) = char :: unescape rest :=
  unescape.eq_3 char rest noFeed noTab

theorem unescape_cons {char : Char} (plain : char ≠ '\\') (rest : List Char) :
    unescape (char :: rest) = char :: unescape rest := by
  -- the first four cases of the definition have a backslash in front
  apply unescape.eq_5
  all_goals
    intros
    contradiction

section

variable {quote : Char} (isQuote : quote = '"' ∨ quote = '\'')

include isQuote

/-- No character that is escaped has a meaning of its own behind a backslash. -/
theorem Literal.ne_of_special {char : Char} (special : char = '\\' ∨ char = quote) :
    char ≠ 'n' ∧ char ≠ 't' ∧ char ≠ '\n' := by
  rcases special with rfl | rfl
  · decide
  · rcases isQuote with rfl | rfl <;> decide

theorem Literal.body_escape (chars : List Char) : Body quote (escape quote chars) := by
  induction chars with
  | nil => exact .nil
  | cons char chars induction =>
      by_cases special : char = '\\' ∨ char = quote
      · rw [escape_cons_of_special special]
        exact .escaped (ne_of_special isQuote special).2.2 induction
      · rw [escape_cons_of_ordinary special]
        obtain ⟨plain, other⟩ := not_or.mp special
        exact .plain other plain induction

theorem unescape_escape (chars : List Char) : unescape (Literal.escape quote chars) = chars := by
  induction chars with
  | nil => rfl
  | cons char chars induction =>
      by_cases special : char = '\\' ∨ char = quote
      · obtain ⟨noFeed, noTab, -⟩ := Literal.ne_of_special isQuote special
        rw [Literal.escape_cons_of_special special, unescape_escaped noFeed noTab, induction]
      · obtain ⟨plain, -⟩ := not_or.mp special
        rw [Literal.escape_cons_of_ordinary special, unescape_cons plain, induction]

/-! ## Texts -/

/-- A literal at the front of a text is a token, whatever comes after its quote. -/
theorem ofChars_literal {body : List Char} (isBody : Literal.Body quote body)
    (after : List Char) :
    Token.ofChars (quote :: (body ++ quote :: after)) =
      (Token.ofChars after).map (.text (String.ofList (unescape body)) :: ·) := by
  have plain : quote ≠ '\\' := by rcases isQuote with rfl | rfl <;> decide
  have read : ∀ rest, step quote rest = literal quote rest := by
    rcases isQuote with rfl | rfl <;> exact fun _ => rfl
  exact ofChars_of_token ((read _).trans (literal_of_body plain isBody after))

theorem ofChars_spell_append (value : String) (after : List Char) :
    Token.ofChars ((Literal.spell quote value).toList ++ after) =
      (Token.ofChars after).map (.text value :: ·) := by
  have literal := ofChars_literal isQuote (Literal.body_escape isQuote value.toList) after
  rw [unescape_escape isQuote, String.ofList_toList] at literal
  rw [Literal.spell, String.toList_ofList, List.cons_append, List.append_assoc]
  exact literal

/-- There is a literal for every string.  It is one token, and where blanks and more text come
after it, the tokens of that text, or what is wrong with it, come after the string. -/
theorem Literal.ofChars_spell (value : String) :
    Token.ofChars (spell quote value).toList = .ok [.text value] ∧
    ∀ blanks more : String, (∀ char ∈ blanks.toList, isSpace char = true) →
      Token.ofChars (spell quote value ++ blanks ++ more).toList =
        (Token.ofChars more.toList).map (.text value :: ·) := by
  constructor
  · rw [← List.append_nil (spell quote value).toList, ofChars_spell_append isQuote]
    rfl
  · intro blanks more areBlank
    rw [String.toList_append, String.toList_append, List.append_assoc,
      ofChars_spell_append isQuote, ofChars_blanks_append areBlank]

end

/-- A line feed stands as it is, a backslash in front of an `n` stays one, and one at the end of
the string does not take the quote with it. -/
theorem Literal.ofChars_spell_mixed :
    spell '\'' "it's \"é\"\n\\n\\" = "'it\\'s \"é\"\n\\\\n\\\\'" ∧
    Token.ofChars "'it\\'s \"é\"\n\\\\n\\\\'".toList = .ok [.text "it's \"é\"\n\\n\\"] ∧
    Token.ofChars ("'it\\'s \"é\"\n\\\\n\\\\'" ++ " \t" ++ "-> \"b\"").toList =
      .ok [.text "it's \"é\"\n\\n\\", .arrow, .text "b"] := by
  have written : spell '\'' "it's \"é\"\n\\n\\" = "'it\\'s \"é\"\n\\\\n\\\\'" := by
    decide +kernel
  have isQuote : '\'' = '"' ∨ '\'' = '\'' := .inr rfl
  obtain ⟨alone, followed⟩ := ofChars_spell isQuote "it's \"é\"\n\\n\\"
  rw [written] at alone followed
  refine ⟨written, alone, (followed " \t" "-> \"b\"" (by simp [isSpace])).trans ?_⟩
  decide +kernel

end CodeGraph.Lexer
