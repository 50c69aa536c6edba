import CodeGraph.Proofs.Statement.Derivation

/-!
# The statement reader and its grammar

Every reader of the grammar parses the derivations of its rule.  A part that may be left
out is told from what follows it by its first token, so that the readers never have to go
back.
-/

namespace CodeGraph.Grammar

open Reader Parses

/-! ## Leaves -/

theorem sameWord_of_sameWord {left middle : String} (same : sameWord left middle = true)
    (right : String) : sameWord left right = sameWord middle right := by
  unfold sameWord at *
  rw [beq_iff_eq.mp same]

theorem token_injective {word : String} {first second : Keyword word}
    (equal : first.token = second.token) : first = second := by
  obtain ⟨spelling, same⟩ := first
  obtain ⟨other, otherSame⟩ := second
  cases equal
  rfl

theorem parses_keyword (word : String) :
    Parses (keyword word) (fun keyword : Keyword word => [keyword.token]) (fun _ => ())
      fun _ => True := by
  refine .one (fun token result => ?_) fun _ _ => token_injective
  constructor
  · intro accepted
    split at accepted
    next name =>
      split at accepted
      next same => exact ⟨⟨name, same⟩, rfl, rfl⟩
      next => cases accepted
    next => cases accepted
  · rintro ⟨⟨spelling, same⟩, rfl, -⟩
    exact if_pos same

theorem parses_name : Parses name (fun name => [.word name]) id fun _ => True := by
  refine .one (fun token result => ?_) fun first second equal => Token.word.inj equal
  cases token <;> simp

theorem expression?_token (tree : ExpressionTree) :
    expression? tree.token = some tree.expression := by
  cases tree with
  | yes word => exact if_pos word.same
  | no word =>
      have other := sameWord_of_sameWord word.same "true"
      simp only [ExpressionTree.token, Keyword.token, expression?, other, word.same]
      rfl
  | null word =>
      have other := sameWord_of_sameWord word.same
      simp only [ExpressionTree.token, Keyword.token, expression?, other]
      rfl
  | _ => rfl

theorem exists_expressionTree {token : Token} {result : Expression}
    (accepted : expression? token = some result) :
    ∃ tree : ExpressionTree, tree.token = token ∧ tree.expression = result := by
  unfold expression? at accepted
  split at accepted
  next name => exact ⟨.parameter name, rfl, Option.some.inj accepted⟩
  next value => exact ⟨.text value, rfl, Option.some.inj accepted⟩
  next value => exact ⟨.int value, rfl, Option.some.inj accepted⟩
  next value => exact ⟨.float value, rfl, Option.some.inj accepted⟩
  next name =>
    split at accepted
    next same => exact ⟨.yes ⟨name, same⟩, rfl, Option.some.inj accepted⟩
    next =>
      split at accepted
      next same => exact ⟨.no ⟨name, same⟩, rfl, Option.some.inj accepted⟩
      next =>
        split at accepted
        next same => exact ⟨.null ⟨name, same⟩, rfl, Option.some.inj accepted⟩
        next => cases accepted
  next => cases accepted

theorem parses_expression :
    Parses expression (fun tree : ExpressionTree => [tree.token]) ExpressionTree.expression
      fun _ => True := by
  refine .one (fun token result => ⟨exists_expressionTree, ?_⟩) fun first second equal => ?_
  · rintro ⟨tree, rfl, rfl⟩
    exact expression?_token tree
  · -- the expression tells the rules apart, and the token what the rule was used for
    have same : some first.expression = some second.expression := by
      rw [← expression?_token, ← expression?_token, equal]
    cases first <;> cases second <;> cases same
    case yes.yes.refl => exact congrArg _ (token_injective equal)
    case no.no.refl => exact congrArg _ (token_injective equal)
    case null.null.refl => exact congrArg _ (token_injective equal)
    all_goals rfl

/-! ## Properties -/

theorem parses_property :
    Parses property PropertyTree.yield PropertyTree.entry fun _ => True :=
  (parses_name.bind (fun key => (parses_expression.map (key, ·)).after (.mark ':'))
    fun _ _ _ => trivial).transport
    ⟨fun tree => (tree.key, tree.value), fun tree => ⟨tree.1, tree.2⟩, fun _ => rfl,
      fun _ => rfl⟩ (fun _ => rfl) fun _ => rfl

theorem parses_bracedProperties :
    Parses bracedProperties PropertiesTree.yield PropertiesTree.pattern fun _ => True := by
  have stops : ∀ rest : List Token, rest.head? = some (.mark '\x7d') →
      True ∧ rest.head? ≠ some (.mark ',') ∧ Misses property rest := by
    intro rest ends
    refine ⟨trivial, by simp [ends], Misses.bind (misses_one ?_) _⟩
    simp [ends]
  have entries := parses_property.separated (.mark ',') (fun _ => trivial) stops
  refine ((entries.bind (fun found => .close (.mark '\x7d') found) ?_).after
    (.mark '\x7b')).transport ⟨fun tree => (tree.entries, ()), fun tree => ⟨tree.1⟩,
      fun _ => rfl, fun _ => rfl⟩ (fun tree => ?_) fun _ => rfl
  · exact fun _ _ _ => rfl
  · simp [PropertiesTree.yield, Listed.commas]

theorem parses_properties :
    Parses properties (fun tree : Option PropertiesTree => tree.elim [] PropertiesTree.yield)
      (fun tree => tree.elim [] PropertiesTree.pattern)
      fun rest => rest.head? ≠ some (.mark '\x7b') := by
  have stops : ∀ rest : List Token, rest.head? ≠ some (.mark '\x7b') →
      True ∧ Misses bracedProperties rest :=
    fun rest ends => ⟨trivial, (misses_exactly ends).bind _⟩
  refine ((parses_bracedProperties.optional stops).map (·.getD [])).transport (Equiv.refl _)
    (fun _ => rfl) fun tree => ?_
  cases tree <;> rfl

/-! ## Patterns -/

theorem parses_optionalName :
    Parses (optional name) (fun tree : Option String => tree.elim [] fun name => [.word name])
      (Option.map id) fun rest => ∀ name, rest.head? ≠ some (.word name) := by
  refine parses_name.optional fun rest ends => ⟨trivial, misses_one fun token here => ?_⟩
  cases token with
  | word name => exact absurd here (ends name)
  | _ => rfl

theorem parses_afterColon :
    Parses afterColon (fun label => [.mark ':', .word label]) id fun _ => True :=
  parses_name.after (.mark ':')

theorem parses_node : Parses node NodeTree.yield NodeTree.pattern fun _ => True := by
  have stops : ∀ rest : List Token, rest.head? ≠ some (.mark ':') →
      True ∧ Misses afterColon rest :=
    fun rest ends => ⟨trivial, (misses_exactly ends).bind _⟩
  refine ((parses_optionalName.bind (fun name => (parses_afterColon.optional stops).bind
    (fun label => parses_properties.bind
      (fun entries => .close (.mark ')') (NodePattern.mk name label entries)) ?_) ?_) ?_).after
    (.mark '(')).transport
      ⟨fun tree : NodeTree => (tree.name, tree.label, tree.properties, ()),
        fun tree => ⟨tree.1, tree.2.1, tree.2.2.1⟩, fun _ => rfl, fun _ => rfl⟩
      (fun tree => ?_) fun tree => ?_
  · simp
  · rintro ⟨entries, -⟩ rest -
    cases entries <;> simp [PropertiesTree.yield]
  · rintro ⟨label, entries, -⟩ rest - name
    cases label <;> cases entries <;> simp [PropertiesTree.yield]
  · simp [NodeTree.yield]
  · simp [NodeTree.pattern]

theorem parses_relation : Parses relation RelationTree.yield RelationTree.pattern fun _ => True := by
  refine ((parses_optionalName.bind (fun name => parses_afterColon.bind
    (fun type => parses_properties.bind
      (fun entries => .close (.mark ']') (RelationPattern.mk name type entries)) ?_) ?_) ?_).after
    (.mark '[')).transport
      ⟨fun tree : RelationTree => (tree.name, tree.type, tree.properties, ()),
        fun tree => ⟨tree.1, tree.2.1, tree.2.2.1⟩, fun _ => rfl, fun _ => rfl⟩
      (fun tree => ?_) fun tree => ?_
  · simp
  · exact fun _ _ _ => trivial
  · simp
  · simp [RelationTree.yield]
  · simp [RelationTree.pattern]

theorem parses_pathTail : Parses pathTail PathTree.yield PathTree.pattern fun _ => True := by
  refine (((parses_relation.bind (fun edge => (parses_node.map (edge, ·)).after .arrow)
    fun _ _ _ => trivial).commit).after (.mark '-')).transport
      ⟨fun tree => (tree.relation, tree.target), fun tree => ⟨tree.1, tree.2⟩, fun _ => rfl,
        fun _ => rfl⟩
      (fun tree => ?_) fun tree => rfl
  simp [PathTree.yield]

theorem parses_pattern :
    Parses pattern GraphTree.yield GraphTree.pattern
      fun rest => rest.head? ≠ some (.mark '-') := by
  have stops : ∀ rest : List Token, rest.head? ≠ some (.mark '-') →
      True ∧ Misses pathTail rest :=
    fun rest ends => ⟨trivial, (misses_exactly ends).bind _⟩
  refine (parses_node.bind (fun source => (parses_pathTail.optional stops).returns
    (fun tail => tail.elim (.node source) fun path => .path source path.1 path.2) ?_)
    fun _ _ _ => trivial).transport
      ⟨fun tree : GraphTree => (tree.source, tree.path), fun tree => ⟨tree.1, tree.2⟩,
        fun _ => rfl, fun _ => rfl⟩ (fun _ => rfl) fun tree => ?_
  · intro tail
    cases tail <;> rfl
  · obtain ⟨source, path⟩ := tree
    cases path <;> rfl

/-! ## Clauses -/

/-- The rules for what is set, side by side. -/
def setAlternatives : SetTree ≃ String × (ExpressionTree ⊕ String × ExpressionTree) where
  toFun
    | .all name map => (name, .inl map)
    | .one name key value => (name, .inr (key, value))
  invFun
    | (name, .inl map) => .all name map
    | (name, .inr (key, value)) => .one name key value
  left_inv tree := by cases tree <;> rfl
  right_inv := by rintro ⟨name, map | ⟨key, value⟩⟩ <;> rfl

theorem parses_setItem : Parses setItem SetTree.yield SetTree.clause fun _ => True := by
  have all := fun target =>
    (parses_expression.map (Clause.setAll target)).after .plusEquals
  have one := fun target => (parses_name.bind (fun key =>
    (parses_expression.map (Clause.setOne target key)).after (.mark '=')) fun _ _ _ =>
      trivial).after (.mark '.')
  have either := parses_name.bind (fun target => (all target).orElse (one target)
    fun _ _ _ => (misses_exactly (by simp)).bind _) fun _ _ _ => trivial
  refine either.transport setAlternatives (fun tree => ?_) fun tree => ?_
  · cases tree <;> rfl
  · cases tree <;> rfl

theorem parses_deleted (detach : Bool) :
    Parses (deleted detach) (Listed.commas fun name => [.word name])
      (fun names => [.delete (names.values id) detach])
      fun rest => rest.head? ≠ some (.mark ',') :=
  (parses_name.separated1 (.mark ',') (fun _ => trivial) fun _ ends => ⟨trivial, ends⟩).map
    fun names => [Clause.delete names detach]

/-- A keyword and what has to follow it. -/
theorem parses_command (word : String) {Tree : Type} {reader : Reader (List Clause)}
    {yield : Tree → List Token} {value : Tree → List Clause} {follow : List Token → Prop}
    (parses : Parses reader yield value follow) :
    Parses (do keyword word; commit reader)
      (fun tree : Keyword word × Tree => tree.1.token :: yield tree.2)
      (fun tree => value tree.2) follow :=
  (parses_keyword word).bind (fun _ => parses.commit) fun _ _ _ => trivial

theorem misses_keyword {word other : String} (found : Keyword other)
    (different : sameWord other word = false) {α : Type} (next : Unit → Reader α)
    (rest : List Token) : Misses (keyword word >>= next) (found.token :: rest) := by
  refine (misses_one ?_).bind next
  rintro token ⟨⟩
  have refused : sameWord found.spelling word = false := by
    rw [sameWord_of_sameWord found.same, different]
  simp [Keyword.token, refused]

/-- What may follow a clause without being a part of it. -/
def Ends (rest : List Token) : Prop :=
  rest.head? ≠ some (.mark '-') ∧ rest.head? ≠ some (.mark ',')

/-- The rules for a clause, side by side in the order in which they are tried. -/
def clauseAlternatives : ClauseTree ≃
    (Keyword "MERGE" × GraphTree) ⊕ (Keyword "CREATE" × GraphTree) ⊕
      (Keyword "MATCH" × Listed NodeTree) ⊕ (Keyword "SET" × Listed SetTree) ⊕
      (Keyword "DETACH" × Keyword "DELETE" × Listed String) ⊕
      (Keyword "DELETE" × Listed String) where
  toFun
    | .merge word pattern => .inl (word, pattern)
    | .create word pattern => .inr (.inl (word, pattern))
    | .select word nodes => .inr (.inr (.inl (word, nodes)))
    | .set word items => .inr (.inr (.inr (.inl (word, items))))
    | .delete (some detach) word names => .inr (.inr (.inr (.inr (.inl (detach, word, names)))))
    | .delete none word names => .inr (.inr (.inr (.inr (.inr (word, names)))))
  invFun
    | .inl (word, pattern) => .merge word pattern
    | .inr (.inl (word, pattern)) => .create word pattern
    | .inr (.inr (.inl (word, nodes))) => .select word nodes
    | .inr (.inr (.inr (.inl (word, items)))) => .set word items
    | .inr (.inr (.inr (.inr (.inl (detach, word, names))))) => .delete (some detach) word names
    | .inr (.inr (.inr (.inr (.inr (word, names))))) => .delete none word names
  left_inv tree := by
    cases tree with
    | delete detach word names => cases detach <;> rfl
    | _ => rfl
  right_inv := by rintro (_ | _ | _ | _ | _ | _) <;> rfl

theorem parses_clause : Parses clause ClauseTree.yield ClauseTree.clauses Ends := by
  have merge := parses_command "MERGE"
    ((parses_pattern.mono fun _ (ends : Ends _) => ends.1).map fun pattern => [.merge pattern])
  have create := parses_command "CREATE"
    ((parses_pattern.mono fun _ (ends : Ends _) => ends.1).map fun pattern => [.create pattern])
  have select := parses_command "MATCH"
    ((parses_node.separated1 (.mark ',') (fun _ => trivial) fun _ (ends : Ends _) =>
      ⟨trivial, ends.2⟩).map fun nodes => [.select nodes])
  have set := parses_command "SET"
    (parses_setItem.separated1 (.mark ',') (fun _ => trivial) fun _ (ends : Ends _) =>
      ⟨trivial, ends.2⟩)
  have delete := parses_command "DELETE"
    ((parses_deleted false).mono fun _ (ends : Ends _) => ends.2)
  have detach := (parses_keyword "DETACH").bind (fun _ => parses_command "DELETE"
    ((parses_deleted true).mono fun _ (ends : Ends _) => ends.2)) fun _ _ _ => trivial
  have fifth := detach.orElse delete fun ⟨word, _⟩ _ _ => misses_keyword word rfl _ _
  have fourth := set.orElse fifth fun tree _ _ => by
    rcases tree with ⟨word, _⟩ | ⟨word, _⟩ <;> exact misses_keyword word rfl _ _
  have third := select.orElse fourth fun tree _ _ => by
    rcases tree with ⟨word, _⟩ | ⟨word, _⟩ | ⟨word, _⟩ <;> exact misses_keyword word rfl _ _
  have second := create.orElse third fun tree _ _ => by
    rcases tree with ⟨word, _⟩ | ⟨word, _⟩ | ⟨word, _⟩ | ⟨word, _⟩ <;>
      exact misses_keyword word rfl _ _
  have first := merge.orElse second fun tree _ _ => by
    rcases tree with ⟨word, _⟩ | ⟨word, _⟩ | ⟨word, _⟩ | ⟨word, _⟩ | ⟨word, _⟩ <;>
      exact misses_keyword word rfl _ _
  refine first.transport clauseAlternatives (fun tree => ?_) fun tree => ?_
  · cases tree with
    | delete detach word names => cases detach <;> rfl
    | _ => rfl
  · cases tree with
    | delete detach word names => cases detach <;> rfl
    | _ => rfl

/-! ## Statements -/

theorem parses_semicolons :
    Parses semicolons (fun count : Nat => List.replicate count (.mark ';')) (fun _ => ())
      fun rest => rest.head? ≠ some (.mark ';') := by
  have many := (Parses.exactly (.mark ';')).many (fun _ _ => trivial)
    (fun rest ends => ⟨trivial, misses_exactly ends⟩) fun _ => List.cons_ne_nil _ _
  refine (many.map fun _ => ()).transport (Equiv.listUniqueEquiv Unit).symm
    (fun count => ?_) fun _ => rfl
  change _ = (List.replicate count ()).flatMap _
  induction count with
  | zero => rfl
  | succ count induction => rw [List.replicate_succ, induction]; rfl

/-- A clause starts with a keyword. -/
theorem exists_yield_eq (tree : ClauseTree) :
    ∃ spelling rest, tree.yield = .word spelling :: rest := by
  cases tree with
  | delete detach word names => cases detach <;> exact ⟨_, _, rfl⟩
  | _ => exact ⟨_, _, rfl⟩

theorem parses_endedClause :
    Parses (do
        let clauses ← clause
        semicolons
        return clauses)
      EndedClauseTree.yield (fun tree => tree.clause.clauses)
      fun rest => Ends rest ∧ rest.head? ≠ some (.mark ';') := by
  have ended := fun clauses : List Clause => (parses_semicolons.mono
    fun rest (ends : Ends rest ∧ rest.head? ≠ some (.mark ';')) => ends.2).map fun _ => clauses
  refine (parses_clause.bind ended fun count rest ends => ?_).transport
    ⟨fun tree : EndedClauseTree => (tree.clause, tree.semicolons), fun tree => ⟨tree.1, tree.2⟩,
      fun _ => rfl, fun _ => rfl⟩ (fun _ => rfl) fun _ => rfl
  cases count with
  | zero => exact ends.1
  | succ count => simp [Ends, List.replicate_succ]

theorem parses_statement :
    Parses statement StatementTree.yield StatementTree.clauses fun rest => rest = [] := by
  have headed : ∀ (tree : EndedClauseTree) (rest : List Token),
      ∃ spelling, (tree.yield ++ rest).head? = some (.word spelling) := by
    intro tree rest
    obtain ⟨spelling, more, yields⟩ := exists_yield_eq tree.clause
    exact ⟨spelling, by simp [EndedClauseTree.yield, yields]⟩
  have again : ∀ (tree : EndedClauseTree) (rest : List Token),
      Ends (tree.yield ++ rest) ∧ (tree.yield ++ rest).head? ≠ some (.mark ';') := by
    intro tree rest
    obtain ⟨spelling, head⟩ := headed tree rest
    simp [Ends, head]
  have stops : ∀ rest : List Token, rest = [] →
      (Ends rest ∧ rest.head? ≠ some (.mark ';')) ∧ Misses clause rest := by
    rintro rest rfl
    exact ⟨by simp [Ends], [], rfl⟩
  have nonempty : ∀ tree : EndedClauseTree, tree.yield ≠ [] := by
    intro tree empty
    obtain ⟨spelling, head⟩ := headed tree []
    simp [empty] at head
  have groups := parses_endedClause.many1 again
    (fun rest ends => ⟨(stops rest ends).1, (stops rest ends).2.bind _⟩) nonempty
  refine (parses_semicolons.bind (fun _ => groups.map List.flatten) fun trees rest _ => ?_).transport
    ⟨fun tree : StatementTree => (tree.semicolons, tree.ended), fun tree => ⟨tree.1, tree.2⟩,
      fun _ => rfl, fun _ => rfl⟩ (fun _ => rfl) fun _ => rfl
  rw [Listed.yield, List.append_assoc]
  exact (again trees.first _).2

end CodeGraph.Grammar

namespace CodeGraph

/-- Clauses are read from what a derivation yields. -/
theorem Clause.exists_derivation_iff {tokens : List Token} {clauses : List Clause} :
    Clause.ofTokens tokens = .ok clauses ↔
      ∃ tree : StatementTree, tree.yield = tokens ∧ tree.clauses = clauses := by
  have parses := Grammar.parses_statement
  constructor
  · intro read
    have done : Grammar.statement tokens = .done clauses [] := by
      unfold Clause.ofTokens at read
      split at read
      next found same =>
        cases read
        exact same
      all_goals cases read
    obtain ⟨tree, derived, same⟩ := parses.sound done
    rw [List.append_nil] at derived
    exact ⟨tree, derived.symm, same⟩
  · rintro ⟨tree, rfl, rfl⟩
    have done := parses.complete tree rfl
    rw [List.append_nil] at done
    rw [Clause.ofTokens, done]

/-- The clauses of a list of tokens are those of its derivation, if there is one, and there
is at most one. -/
theorem Clause.ofTokens_eq_ok_iff (tokens : List Token) :
    (∀ clauses, Clause.ofTokens tokens = .ok clauses ↔
      ∃ tree : StatementTree, tree.yield = tokens ∧ tree.clauses = clauses) ∧
    ∀ first second : StatementTree, first.yield = tokens → second.yield = tokens →
      first = second := by
  refine ⟨fun clauses => Clause.exists_derivation_iff, fun first second derives derivesToo => ?_⟩
  exact Grammar.parses_statement.unique rfl rfl
    (congrArg (· ++ []) (derives.trans derivesToo.symm))

theorem Clause.ofTokens_eq_ok_iff_detach :
    let tokens : List Token :=
      [.mark ';', .word "match", .mark '(', .word "a", .mark ')', .word "Detach",
        .word "delete", .word "a", .mark ';', .mark ';']
    ∃ tree : StatementTree, tree.yield = tokens ∧
      tree.clauses = [.select [⟨some "a", none, []⟩], .delete ["a"] true] ∧
      ∀ other : StatementTree, other.yield = tokens → other = tree := by
  intro tokens
  obtain ⟨reads, unique⟩ := Clause.ofTokens_eq_ok_iff tokens
  obtain ⟨tree, yields, clauses⟩ :=
    (reads [.select [⟨some "a", none, []⟩], .delete ["a"] true]).mp rfl
  exact ⟨tree, yields, clauses, fun other derives => unique other tree derives yields⟩

end CodeGraph
