import CodeGraph.Java.Grammar
import CodeGraph.Proofs.Java.Tree

/-!
# What is read

`Reads` says which trees a phrase makes of the tokens in front of it, without a bound on how deep
rules are nested.  Whatever the readers give back is read in this sense, so that what holds of
every tree of a source follows by induction on how the tree was read.
-/

namespace CodeGraph.Java

namespace Grammar

variable {ρ : Type}

/-- The construct that an extension makes of what came before it and its own trees. -/
def extendedBy (construct : Construct) (role : Option Role) (trees more : List Tree)
    (finish : Place) : Tree :=
  { construct, span := spanFrom trees finish, children := trees.map (·.inRole role) ++ more }

/-- A phrase can make the trees out of the tokens between two places. -/
inductive Reads (grammar : Grammar ρ) : Phrase ρ → Place → List Tree → Place → Prop where
  | shows {place : Place} {token : Token} {rest : List Token} {text : String}
      (cut : place.tokens = token :: rest) :
      Reads grammar (.shows text) place [] (.after token rest)
  | identifier {place : Place} {token : Token} {rest : List Token} {construct : Construct}
      (cut : place.tokens = token :: rest) (isIdentifier : token.isIdentifier = true) :
      Reads grammar (.identifier construct) place [{ construct, span := token.span }]
        (.after token rest)
  | literal {place : Place} {token : Token} {rest : List Token}
      (cut : place.tokens = token :: rest) :
      Reads grammar .literal place [{ construct := .other, span := token.span }]
        (.after token rest)
  | rule {name : ρ} {place finish : Place} {trees : List Tree} :
      Reads grammar (grammar name) place trees finish →
      Reads grammar (.rule name) place trees finish
  | allNil {place : Place} : Reads grammar (.all []) place [] place
  | allCons {part : Phrase ρ} {parts : List (Phrase ρ)} {place middle finish : Place}
      {trees more : List Tree} :
      Reads grammar part place trees middle → Reads grammar (.all parts) middle more finish →
      Reads grammar (.all (part :: parts)) place (trees ++ more) finish
  | any {choice : Phrase ρ} {choices : List (Phrase ρ)} {place finish : Place}
      {trees : List Tree} (isChoice : choice ∈ choices) :
      Reads grammar choice place trees finish → Reads grammar (.any choices) place trees finish
  | absent {phrase : Phrase ρ} {place : Place} :
      Reads grammar (.optional phrase) place [] place
  | present {phrase : Phrase ρ} {place finish : Place} {trees : List Tree} :
      Reads grammar phrase place trees finish →
      Reads grammar (.optional phrase) place trees finish
  | manyNil {phrase : Phrase ρ} {place : Place} : Reads grammar (.many phrase) place [] place
  | manyCons {phrase : Phrase ρ} {place middle finish : Place} {trees more : List Tree} :
      Reads grammar phrase place trees middle → Reads grammar (.many phrase) middle more finish →
      Reads grammar (.many phrase) place (trees ++ more) finish
  | node {construct : Construct} {phrase : Phrase ρ} {place finish : Place}
      {children : List Tree} :
      Reads grammar phrase place children finish →
      Reads grammar (.node construct phrase) place
        [{ construct, span := spanBetween place finish, children }] finish
  | inRole {role : Role} {phrase : Phrase ρ} {place finish : Place} {trees : List Tree} :
      Reads grammar phrase place trees finish →
      Reads grammar (.inRole role phrase) place (trees.map (·.inRole role)) finish
  | unextended {start : Phrase ρ} {extensions : List (Construct × Option Role × Phrase ρ)}
      {place finish : Place} {trees : List Tree} :
      Reads grammar start place trees finish →
      Reads grammar (.extended start extensions) place trees finish
  | extended {start phrase : Phrase ρ} {construct : Construct} {role : Option Role}
      {extensions : List (Construct × Option Role × Phrase ρ)} {place middle finish : Place}
      {trees more : List Tree} (isExtension : (construct, role, phrase) ∈ extensions) :
      Reads grammar (.extended start extensions) place trees middle →
      Reads grammar phrase middle more finish →
      Reads grammar (.extended start extensions) place
        [extendedBy construct role trees more finish] finish

/-- What readers with some fuel give back is read. -/
structure Faithful (grammar : Grammar ρ) (fuel : Nat) : Prop where
  read : ∀ {phrase place trees finish}, read grammar fuel phrase place = some (trees, finish) →
    Reads grammar phrase place trees finish
  readAll : ∀ {parts place trees finish},
    readAll grammar fuel parts place = some (trees, finish) →
      Reads grammar (.all parts) place trees finish
  readAny : ∀ {choices place trees finish},
    readAny grammar fuel choices place = some (trees, finish) →
      ∃ choice ∈ choices, Reads grammar choice place trees finish
  readMany : ∀ {phrase place},
    Reads grammar (.many phrase) place (readMany grammar fuel phrase place).1
      (readMany grammar fuel phrase place).2
  extend : ∀ {start extensions place trees middle},
    Reads grammar (.extended start extensions) place trees middle →
      Reads grammar (.extended start extensions) place
        (extend grammar fuel extensions trees middle).1
        (extend grammar fuel extensions trees middle).2
  readExtension : ∀ {extensions trees place longer finish},
    readExtension grammar fuel extensions trees place = some (longer, finish) →
      ∃ construct role phrase more, (construct, role, phrase) ∈ extensions ∧
        Reads grammar phrase place more finish ∧
        longer = [extendedBy construct role trees more finish]

namespace Faithful

variable {grammar : Grammar ρ} {fuel : Nat} {place finish : Place} {trees : List Tree}

theorem read_succ (faithful : Faithful grammar fuel) {phrase : Phrase ρ}
    (done : Grammar.read grammar (fuel + 1) phrase place = some (trees, finish)) :
    Reads grammar phrase place trees finish := by
  cases phrase <;> rw [Grammar.read] at done
  case shows text =>
    split at done
    next token rest cut => split at done <;> cases done; exact .shows cut
    next => cases done
  case identifier construct =>
    split at done
    next token rest cut => split at done <;> cases done; exact .identifier cut ‹_›
    next => cases done
  case literal =>
    split at done
    next token rest cut => split at done <;> cases done; exact .literal cut
    next => cases done
  case rule name => exact .rule (faithful.read done)
  case all parts => exact faithful.readAll done
  case any choices =>
    obtain ⟨choice, isChoice, inner⟩ := faithful.readAny done
    exact .any isChoice inner
  case optional phrase =>
    cases inner : Grammar.read grammar fuel phrase place with
    | none => rw [inner] at done; cases done; exact .absent
    | some reading => rw [inner] at done; cases done; exact .present (faithful.read inner)
  case many phrase =>
    have reads : Reads grammar (.many phrase) place _ _ := faithful.readMany
    rw [Option.some.inj done] at reads
    exact reads
  case node construct phrase =>
    split at done
    next children finish inner => cases done; exact .node (faithful.read inner)
    next => cases done
  case inRole role phrase =>
    split at done
    next trees finish inner => cases done; exact .inRole (faithful.read inner)
    next => cases done
  case extended start extensions =>
    split at done
    next trees finish inner =>
      have reads : Reads grammar (.extended start extensions) place _ _ :=
        faithful.extend (.unextended (faithful.read inner))
      rw [Option.some.inj done] at reads
      exact reads
    next => cases done

theorem readAll_succ (faithful : Faithful grammar fuel) {parts : List (Phrase ρ)}
    (done : Grammar.readAll grammar (fuel + 1) parts place = some (trees, finish)) :
    Reads grammar (.all parts) place trees finish := by
  cases parts with
  | nil => cases done; exact .allNil
  | cons part parts =>
    rw [Grammar.readAll] at done
    split at done
    next => cases done
    next trees middle first =>
      split at done <;> cases done
      next more finish rest => exact .allCons (faithful.read first) (faithful.readAll rest)

theorem readAny_succ (faithful : Faithful grammar fuel) {choices : List (Phrase ρ)}
    (done : Grammar.readAny grammar (fuel + 1) choices place = some (trees, finish)) :
    ∃ choice ∈ choices, Reads grammar choice place trees finish := by
  cases choices with
  | nil => cases done
  | cons choice choices =>
    rw [Grammar.readAny] at done
    split at done
    next first => cases done; exact ⟨choice, List.mem_cons_self, faithful.read first⟩
    next =>
      obtain ⟨later, isChoice, inner⟩ := faithful.readAny done
      exact ⟨later, List.mem_cons_of_mem _ isChoice, inner⟩

theorem readMany_succ (faithful : Faithful grammar fuel) {phrase : Phrase ρ} :
    Reads grammar (.many phrase) place (Grammar.readMany grammar (fuel + 1) phrase place).1
      (Grammar.readMany grammar (fuel + 1) phrase place).2 := by
  rw [Grammar.readMany]
  split
  next => exact .manyNil
  next trees middle first =>
    split
    next => exact .manyCons (faithful.read first) faithful.readMany
    next => exact .manyNil

theorem extend_succ (faithful : Faithful grammar fuel) {start : Phrase ρ}
    {extensions : List (Construct × Option Role × Phrase ρ)} {middle : Place}
    (before : Reads grammar (.extended start extensions) place trees middle) :
    Reads grammar (.extended start extensions) place
      (Grammar.extend grammar (fuel + 1) extensions trees middle).1
      (Grammar.extend grammar (fuel + 1) extensions trees middle).2 := by
  rw [Grammar.extend]
  split
  next => exact before
  next longer finish extension =>
    obtain ⟨construct, role, phrase, more, isExtension, inner, rfl⟩ :=
      faithful.readExtension extension
    exact faithful.extend (.extended isExtension before inner)

theorem readExtension_succ (faithful : Faithful grammar fuel)
    {extensions : List (Construct × Option Role × Phrase ρ)} {longer : List Tree}
    (done : Grammar.readExtension grammar (fuel + 1) extensions trees place =
      some (longer, finish)) :
    ∃ construct role phrase more, (construct, role, phrase) ∈ extensions ∧
      Reads grammar phrase place more finish ∧
      longer = [extendedBy construct role trees more finish] := by
  rcases extensions with - | ⟨⟨construct, role, phrase⟩, extensions⟩
  · cases done
  · rw [Grammar.readExtension] at done
    split at done
    next more finish inner =>
      cases done
      exact ⟨construct, role, phrase, more, List.mem_cons_self, faithful.read inner, rfl⟩
    next =>
      obtain ⟨construct, role, phrase, more, isExtension, rest⟩ := faithful.readExtension done
      exact ⟨construct, role, phrase, more, List.mem_cons_of_mem _ isExtension, rest⟩

end Faithful

theorem faithful (grammar : Grammar ρ) (fuel : Nat) : Faithful grammar fuel := by
  induction fuel with
  | zero =>
    refine ⟨?_, ?_, ?_, .manyNil, fun before => before, ?_⟩
    all_goals exact fun done => nomatch done
  | succ fuel faithful =>
    exact ⟨faithful.read_succ, faithful.readAll_succ, faithful.readAny_succ,
      faithful.readMany_succ, faithful.extend_succ, faithful.readExtension_succ⟩

end Grammar

/-! ## Comments among what is read -/

namespace Tree

theorem withComments_eq (tree : Tree) (comments : List Span) :
    tree.withComments comments = { tree with children := weave tree.children comments } := by
  cases tree
  rw [withComments]

theorem mem_weave {trees : List Tree} {comments : List Span} {part : Tree}
    (member : part ∈ weave trees comments) :
    (∃ span, part = ofComment span) ∨
      ∃ tree ∈ trees, ∃ inside, part = tree.withComments inside := by
  induction trees generalizing comments with
  | nil =>
      rw [weave] at member
      obtain ⟨span, -, same⟩ := List.mem_map.mp member
      exact .inl ⟨span, same.symm⟩
  | cons tree trees induction =>
      rw [weave] at member
      rcases List.mem_append.mp member with early | late
      · obtain ⟨span, -, same⟩ := List.mem_map.mp early
        exact .inl ⟨span, same.symm⟩
      · rcases List.mem_cons.mp late with here | later
        · exact .inr ⟨tree, List.mem_cons_self, _, here⟩
        · rcases induction later with comment | ⟨other, isTree, inside, same⟩
          · exact .inl comment
          · exact .inr ⟨other, List.mem_cons_of_mem tree isTree, inside, same⟩

/-- With comments, the parts of a tree are those that it had, with comments, and the comments. -/
theorem mem_subtrees_withComments {tree part : Tree} {comments : List Span}
    (member : part ∈ (tree.withComments comments).subtrees) :
    (∃ span, part = ofComment span) ∨
      ∃ before ∈ tree.subtrees, ∃ inside, part = before.withComments inside := by
  induction tree using Tree.induction generalizing comments with
  | step tree induction =>
    rw [subtrees_eq, List.mem_cons, List.mem_flatMap] at member
    rcases member with here | ⟨child, isChild, below⟩
    · exact .inr ⟨tree, tree.self_mem_subtrees, comments, here⟩
    · rw [withComments_eq] at isChild
      rcases mem_weave isChild with ⟨span, rfl⟩ | ⟨earlier, isEarlier, inside, rfl⟩
      · exact .inl ⟨span, List.mem_singleton.mp below⟩
      · rcases induction earlier isEarlier below with comment | ⟨before, isBefore, rest⟩
        · exact .inl comment
        · exact .inr ⟨before, subtrees_subset isEarlier isBefore, rest⟩

/-! ### What has a role -/

/-- Everything in the tree that has the role has a construct and a span with the property. -/
def Marks (role : Role) (property : Construct → Span → Prop) (tree : Tree) : Prop :=
  ∀ part ∈ tree.subtrees, part.role = some role → property part.construct part.span

section

variable {role : Role} {property : Construct → Span → Prop} {tree : Tree}

theorem marks_iff :
    tree.Marks role property ↔ (tree.role = some role → property tree.construct tree.span) ∧
      ∀ child ∈ tree.children, child.Marks role property := by
  unfold Marks
  rw [subtrees_eq, List.forall_mem_cons]
  simp only [List.mem_flatMap]
  constructor
  · rintro ⟨here, below⟩
    exact ⟨here, fun child member part inside => below part ⟨child, member, inside⟩⟩
  · rintro ⟨here, below⟩
    exact ⟨here, fun part ⟨child, member, inside⟩ => below child member part inside⟩

theorem marks_of_children {construct : Construct} {span : Span} {children : List Tree}
    (each : ∀ child ∈ children, child.Marks role property) :
    Marks role property { construct, span, children } :=
  marks_iff.mpr ⟨nofun, each⟩

theorem marks_leaf (construct : Construct) (span : Span) :
    Marks role property { construct, span } :=
  marks_of_children fun _ member => absurd member List.not_mem_nil

theorem Marks.inRole (marks : tree.Marks role property) {given : Option Role}
    (allowed : given = some role → property tree.construct tree.span) :
    (tree.inRole given).Marks role property := by
  cases given with
  | none => exact marks
  | some given => exact marks_iff.mpr ⟨allowed, (marks_iff.mp marks).2⟩

theorem Marks.withComments (marks : tree.Marks role property) (comments : List Span) :
    (tree.withComments comments).Marks role property := by
  intro part member isMarked
  rcases mem_subtrees_withComments member with ⟨span, rfl⟩ | ⟨before, isBefore, inside, rfl⟩
  · cases isMarked
  · rw [withComments_eq] at isMarked ⊢
    exact marks before isBefore isMarked

theorem marks_weave {trees : List Tree} (each : ∀ tree ∈ trees, tree.Marks role property)
    (comments : List Span) : ∀ part ∈ weave trees comments, part.Marks role property := by
  intro part member
  rcases mem_weave member with ⟨span, rfl⟩ | ⟨tree, isTree, inside, rfl⟩
  · exact marks_leaf .comment span
  · exact (each tree isTree).withComments inside

end

/-! ### Whole sources -/

/-- The tree of a source is read as a program, and has comments put in. -/
theorem reads_of_ofChars? {chars : List Char} {root : Tree}
    (parsed : ofChars? chars = some root) :
    ∃ source children finish, Tokens.ofChars? chars = some source ∧
      Grammar.Reads Rule.phrase Rule.program ⟨source.tokens, 0⟩ children finish ∧
      root = { construct := .program, span := ⟨0, chars.length, 1⟩,
               children := weave children source.comments } := by
  obtain ⟨source, cut, parsed⟩ := Option.bind_eq_some_iff.mp parsed
  obtain ⟨⟨children, finish⟩, read, done⟩ := Option.bind_eq_some_iff.mp parsed
  dsimp only at done
  split at done <;> cases done
  exact ⟨source, children, finish, cut, (Grammar.faithful ..).read read, rfl⟩

end Tree

end CodeGraph.Java
