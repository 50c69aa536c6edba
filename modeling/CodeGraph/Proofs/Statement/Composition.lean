import CodeGraph.Proofs.Statement.Grammar
import CodeGraph.Proofs.Statement.Lexing
import CodeGraph.Statement.Binding

/-!
# Statements one after another

The texts of two statements with blanks or semicolons between them are the text of one statement,
with the clauses of the first and then those of the second.
-/

namespace CodeGraph

/-! ## Derivations -/

/-- The trees of one list and then those of another. -/
def Listed.join {Tree : Type} (first second : Listed Tree) : Listed Tree :=
  ⟨first.first, first.others ++ second.first :: second.others⟩

theorem Listed.yield_join {Tree : Type} (yield : Tree → List Token) (first second : Listed Tree) :
    (first.join second).yield yield yield =
      first.yield yield yield ++ second.yield yield yield := by
  simp only [join, Listed.yield, List.flatMap_append, List.flatMap_cons, List.append_assoc]

theorem Listed.values_join {Tree α : Type} (value : Tree → α) (first second : Listed Tree) :
    (first.join second).values value = first.values value ++ second.values value := by
  simp only [join, values, List.map_append, List.map_cons, List.cons_append]

/-- There may be more semicolons after the last clause. -/
theorem EndedClauseTree.exists_longer (ended : Listed EndedClauseTree) (count : Nat) :
    ∃ longer : Listed EndedClauseTree,
      longer.yield yield yield = ended.yield yield yield ++ List.replicate count (.mark ';') ∧
        longer.values (·.clause.clauses) = ended.values (·.clause.clauses) := by
  obtain ⟨first, others⟩ := ended
  induction others generalizing first with
  | nil =>
      refine ⟨⟨⟨first.clause, first.semicolons + count⟩, []⟩, ?_, rfl⟩
      simp only [Listed.yield, yield, List.flatMap_nil, List.append_nil, List.append_assoc,
        List.replicate_append_replicate]
  | cons second others induction =>
      obtain ⟨longer, yields, values⟩ := induction second
      refine ⟨⟨first, longer.first :: longer.others⟩, ?_, ?_⟩
      · simp only [Listed.yield, List.flatMap_cons, List.append_assoc] at yields ⊢
        rw [yields]
      · exact congrArg (first.clause.clauses :: ·) values

/-- The semicolons in front of the second statement end the last clause of the first. -/
theorem StatementTree.exists_joined (first second : StatementTree) (count : Nat) :
    ∃ tree : StatementTree,
      tree.yield = first.yield ++ (List.replicate count (.mark ';') ++ second.yield) ∧
        tree.clauses = first.clauses ++ second.clauses := by
  obtain ⟨longer, yields, values⟩ :=
    EndedClauseTree.exists_longer first.ended (count + second.semicolons)
  refine ⟨⟨first.semicolons, longer.join second.ended⟩, ?_, ?_⟩
  · rw [← List.replicate_append_replicate] at yields
    simp only [yield, Listed.yield_join, yields, List.append_assoc]
  · simp only [clauses, Listed.values_join, values, List.flatten_append]

theorem Clause.ofTokens_joined {tokens others : List Token} {clauses more : List Clause}
    (first : Clause.ofTokens tokens = .ok clauses) (second : Clause.ofTokens others = .ok more)
    (count : Nat) :
    Clause.ofTokens (tokens ++ (List.replicate count (.mark ';') ++ others)) =
      .ok (clauses ++ more) := by
  obtain ⟨tree, rfl, rfl⟩ := Clause.exists_derivation_iff.mp first
  obtain ⟨other, rfl, rfl⟩ := Clause.exists_derivation_iff.mp second
  exact Clause.exists_derivation_iff.mpr (tree.exists_joined other count)

/-! ## Texts -/

/-- There are no clauses without tokens. -/
theorem Clause.ofText_eq_ok {text : String} {clauses : List Clause} :
    Clause.ofText text = .ok clauses ↔
      ∃ tokens, Token.ofChars text.toList = .ok tokens ∧ Clause.ofTokens tokens = .ok clauses := by
  unfold Clause.ofText
  split
  next fault lexed => simp [lexed, Binding.fault]
  next lexed =>
    have empty : Clause.ofTokens [] ≠ .ok clauses := by
      intro same
      cases same
    simp [lexed, Binding.fault, empty]
  next tokens _ lexed =>
    simp only [lexed, Except.ok.injEq, exists_eq_left']
    cases Clause.ofTokens tokens <;> simp [Binding.fault]

/-- A blank or a semicolon ends the token in front of it. -/
theorem Lexer.Lexes.joined {first between second : List Char} {tokens others : List Token}
    (nonempty : between ≠ [])
    (separates : ∀ char ∈ between, isSpace char = true ∨ char = ';')
    (lexes : Lexes first tokens) (lexesToo : Lexes second others) :
    Lexes (first ++ between ++ second)
      (tokens ++ (List.replicate (between.count ';') (.mark ';') ++ others)) := by
  rw [List.append_assoc]
  refine lexes.append (fun char first => ?_) (lexesToo.separated separates)
  rw [List.head?_append_of_ne_nil _ nonempty] at first
  exact separates char (List.mem_of_head? first)

/-- Two texts with blanks between them have the tokens of the first and then those of the second,
and two statements with blanks and semicolons between them have the clauses of the first and then
those of the second. -/
theorem Clause.texts_compose (first between second : String) (nonempty : between ≠ "") :
    ((∀ char ∈ between.toList, Lexer.isSpace char = true) →
      ∀ tokens others, Token.ofChars first.toList = .ok tokens →
        Token.ofChars second.toList = .ok others →
          Token.ofChars (first ++ between ++ second).toList = .ok (tokens ++ others)) ∧
    ((∀ char ∈ between.toList, Lexer.isSpace char = true ∨ char = ';') →
      ∀ clauses others, Clause.ofText first = .ok clauses → Clause.ofText second = .ok others →
        Clause.ofText (first ++ between ++ second) = .ok (clauses ++ others)) := by
  have some : between.toList ≠ [] := mt String.toList_eq_nil_iff.mp nonempty
  simp only [String.toList_append, ← Lexer.Lexes.iff_ofChars, Clause.ofText_eq_ok]
  constructor
  · intro blanks tokens others lexes lexesToo
    have none : between.toList.count ';' = 0 :=
      List.count_eq_zero.mpr fun isThere => absurd (blanks _ isThere) (by decide)
    have joined := lexes.joined some (fun char isThere => .inl (blanks char isThere)) lexesToo
    rwa [none] at joined
  · rintro separates clauses others ⟨tokens, lexes, reads⟩ ⟨more, lexesToo, readsToo⟩
    exact ⟨_, lexes.joined some separates lexesToo, Clause.ofTokens_joined reads readsToo _⟩

/-- A dash does not become the sign of the number after it, and semicolons end a statement where
they are no part of a value. -/
theorem Clause.texts_compose_dash :
    Token.ofChars ("a.k -" ++ "\t\n" ++ "15").toList =
      .ok ([.word "a", .mark '.', .word "k", .mark '-'] ++ [.int 15]) ∧
    Clause.ofText ("match (a) SET a.k = ';'" ++ " ; \n" ++ ";Detach delete a") =
      .ok ([.select [⟨some "a", none, []⟩], .setOne "a" "k" (.value (.text ";"))] ++
        [.delete ["a"] true]) := by
  have blanks := (texts_compose "a.k -" "\t\n" "15" (by decide)).1
  have ends := (texts_compose "match (a) SET a.k = ';'" " ; \n" ";Detach delete a" (by decide)).2
  refine ⟨blanks (by simp [Lexer.isSpace]) _ _ (by decide +kernel) (by decide +kernel),
    ends (by simp [Lexer.isSpace]) _ _ ?_ ?_⟩
  all_goals
    unfold ofText
    simp only [String.reduceToList]
    rfl

end CodeGraph
