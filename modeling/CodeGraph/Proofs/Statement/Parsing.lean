import CodeGraph.Statement.Reader
import Mathlib.Logic.Equiv.List

/-!
# Readers and the trees they read

A reader parses the trees of a grammar if it reads exactly the tokens that they yield, and
no two trees yield the same.  What may follow a tree is part of it, since a reader that
takes as much as it can stops only where nothing more fits.  Readers that are put together
parse trees that are put together.
-/

namespace CodeGraph

/-- Whatever the reader reads is the yield of a tree with that value, the yield of a tree is
read in front of what may follow, and it is the yield of no other tree. -/
structure Parses {Tree α : Type} (reader : Reader α) (yield : Tree → List Token)
    (value : Tree → α) (follow : List Token → Prop) : Prop where
  sound : ∀ {tokens result rest}, reader tokens = .done result rest →
    ∃ tree, tokens = yield tree ++ rest ∧ value tree = result
  complete : ∀ tree {rest}, follow rest → reader (yield tree ++ rest) = .done (value tree) rest
  unique : ∀ {first second rest other}, follow rest → follow other →
    yield first ++ rest = yield second ++ other → first = second

/-- Does the reader miss? -/
def Reader.Misses {α : Type} (reader : Reader α) (tokens : List Token) : Prop :=
  ∃ stand, reader tokens = .missed stand

namespace Reader

variable {α β : Type} {reader : Reader α} {next : α → Reader β} {tokens rest : List Token}

theorem bind_of_ended {outcome : Outcome α} (ended : reader tokens = outcome) :
    (reader >>= next) tokens = ((fun _ => outcome : Reader α) >>= next) tokens := by
  cases ended
  rfl

theorem bind_of_done {value : α} (done : reader tokens = .done value rest) :
    (reader >>= next) tokens = next value rest :=
  bind_of_ended done

theorem bind_of_missed {stand : List Token} (missed : reader tokens = .missed stand) :
    (reader >>= next) tokens = .missed stand :=
  bind_of_ended missed

theorem bind_of_failed {stand : List Token} (failed : reader tokens = .failed stand) :
    (reader >>= next) tokens = .failed stand :=
  bind_of_ended failed

theorem bind_eq_done_iff {result : β} :
    (reader >>= next) tokens = .done result rest ↔
      ∃ value between, reader tokens = .done value between ∧
        next value between = .done result rest := by
  cases ended : reader tokens with
  | done value between => simp [bind_of_done ended]
  | missed stand => simp [bind_of_missed ended]
  | failed stand => simp [bind_of_failed ended]

theorem Misses.bind (misses : Misses reader tokens) (next : α → Reader β) :
    Misses (reader >>= next) tokens :=
  misses.imp fun _ missed => bind_of_missed missed

theorem manyWithin_succ (reader : Reader α) (fuel : Nat) (tokens : List Token) :
    manyWithin reader (fuel + 1) tokens =
      match reader tokens with
      | .missed _ => .done [] tokens
      | .failed stand => .failed stand
      | .done value rest =>
          match manyWithin reader fuel rest with
          | .done values after => .done (value :: values) after
          | .missed stand => .missed stand
          | .failed stand => .failed stand := rfl

theorem misses_one {accept : Token → Option α}
    (refused : ∀ token, tokens.head? = some token → accept token = none) :
    Misses (one accept) tokens := by
  cases tokens with
  | nil => exact ⟨[], rfl⟩
  | cons token rest => exact ⟨rest, by rw [one, refused token rfl]⟩

theorem misses_exactly {expected : Token} (other : tokens.head? ≠ some expected) :
    Misses (exactly expected) tokens := by
  refine misses_one fun token here => if_neg ?_
  rintro rfl
  exact other here

end Reader

/-- A tree and any number of others. -/
structure Listed (Tree : Type) where
  first : Tree
  others : List Tree

namespace Listed

variable {Tree α : Type}

/-- What the first tree yields, and then what the others yield. -/
def yield (first other : Tree → List Token) (trees : Listed Tree) : List Token :=
  first trees.first ++ trees.others.flatMap other

def values (value : Tree → α) (trees : Listed Tree) : List α :=
  value trees.first :: trees.others.map value

def equivProd : Listed Tree ≃ Tree × List Tree where
  toFun trees := (trees.first, trees.others)
  invFun trees := ⟨trees.1, trees.2⟩
  left_inv _ := rfl
  right_inv _ := rfl

end Listed

namespace Parses

open Reader

variable {Tree Other α β : Type} {reader : Reader α} {yield : Tree → List Token}
  {value : Tree → α} {follow : List Token → Prop}

/-- What a tree yields is not something the reader misses. -/
theorem not_misses (parses : Parses reader yield value follow) (tree : Tree)
    {rest : List Token} (follows : follow rest) : ¬Misses reader (yield tree ++ rest) := by
  rintro ⟨stand, missed⟩
  rw [parses.complete tree follows] at missed
  cases missed

theorem mono (parses : Parses reader yield value follow) {stricter : List Token → Prop}
    (implies : ∀ rest, stricter rest → follow rest) : Parses reader yield value stricter where
  sound := parses.sound
  complete tree rest follows := parses.complete tree (implies rest follows)
  unique first second := parses.unique (implies _ first) (implies _ second)

/-- The same trees in another form. -/
theorem transport (parses : Parses reader yield value follow) (same : Other ≃ Tree)
    {otherYield : Other → List Token} {otherValue : Other → α}
    (yields : ∀ tree, otherYield tree = yield (same tree))
    (values : ∀ tree, otherValue tree = value (same tree)) :
    Parses reader otherYield otherValue follow where
  sound := by
    intro tokens result rest done
    obtain ⟨tree, split, equal⟩ := parses.sound done
    refine ⟨same.symm tree, ?_, ?_⟩
    · rw [yields, same.apply_symm_apply, split]
    · rw [values, same.apply_symm_apply, equal]
  complete := by
    intro tree rest follows
    rw [yields, values]
    exact parses.complete (same tree) follows
  unique := by
    intro first second rest other follows otherFollows equal
    rw [yields, yields] at equal
    exact same.injective (parses.unique follows otherFollows equal)

/-! ## Leaves -/

theorem pure (result : α) :
    Parses (Pure.pure result) (fun _ : Unit => []) (fun _ => result) fun _ => True where
  sound := by
    intro tokens found rest done
    cases done
    exact ⟨(), rfl, rfl⟩
  complete _ _ _ := rfl
  unique _ _ _ := rfl

/-- One token that is the leaf of a tree. -/
theorem one {accept : Token → Option α} {leaf : Tree → Token}
    (accepts : ∀ token result,
      accept token = some result ↔ ∃ tree, leaf tree = token ∧ value tree = result)
    (injective : ∀ first second, leaf first = leaf second → first = second) :
    Parses (Reader.one accept) (fun tree => [leaf tree]) value fun _ => True where
  sound := by
    intro tokens result rest done
    cases tokens with
    | nil => cases done
    | cons token tokens =>
        rw [Reader.one] at done
        split at done
        next found accepted =>
          cases done
          obtain ⟨tree, rfl, rfl⟩ := (accepts token _).mp accepted
          exact ⟨tree, rfl, rfl⟩
        next => cases done
  complete := by
    intro tree rest _
    have accepted := (accepts (leaf tree) (value tree)).mpr ⟨tree, rfl, rfl⟩
    rw [List.singleton_append, Reader.one, accepted]
  unique := by
    intro first second rest other _ _ equal
    exact injective first second (List.cons.inj equal).1

theorem exactly (expected : Token) :
    Parses (Reader.exactly expected) (fun _ : Unit => [expected]) (fun _ => ())
      fun _ => True := by
  refine one (fun token result => ?_) fun _ _ _ => rfl
  by_cases same : token = expected
  · simp [same]
  · simp [same, Ne.symm same]

/-! ## One after another -/

theorem bind (parses : Parses reader yield value follow) {next : α → Reader β}
    {laterYield : Other → List Token} {laterValue : α → Other → β}
    {laterFollow : List Token → Prop}
    (later : ∀ result, Parses (next result) laterYield (laterValue result) laterFollow)
    (follows : ∀ tree rest, laterFollow rest → follow (laterYield tree ++ rest)) :
    Parses (reader >>= next) (fun trees : Tree × Other => yield trees.1 ++ laterYield trees.2)
      (fun trees => laterValue (value trees.1) trees.2) laterFollow where
  sound := by
    intro tokens result rest done
    obtain ⟨found, between, first, second⟩ := bind_eq_done_iff.mp done
    obtain ⟨tree, rfl, rfl⟩ := parses.sound first
    obtain ⟨other, rfl, rfl⟩ := (later _).sound second
    exact ⟨(tree, other), (List.append_assoc _ _ _).symm, rfl⟩
  complete := by
    rintro ⟨tree, other⟩ rest ends
    rw [List.append_assoc]
    exact bind_eq_done_iff.mpr
      ⟨_, _, parses.complete tree (follows other rest ends), (later _).complete other ends⟩
  unique := by
    rintro ⟨tree, other⟩ ⟨secondTree, secondOther⟩ rest secondRest ends secondEnds equal
    rw [List.append_assoc, List.append_assoc] at equal
    have same : tree = secondTree := parses.unique (follows other rest ends)
      (follows secondOther secondRest secondEnds) equal
    subst secondTree
    have sameOther : other = secondOther :=
      (later (value tree)).unique ends secondEnds (List.append_cancel_left equal)
    rw [sameOther]

/-- One more token in front. -/
theorem after (expected : Token) (parses : Parses reader yield value follow) :
    Parses (do Reader.exactly expected; reader) (fun tree => expected :: yield tree) value
      follow :=
  ((exactly expected).bind (fun _ => parses) fun _ _ _ => trivial).transport
    (Equiv.punitProd Tree).symm (fun _ => rfl) fun _ => rfl

/-- One more token at the end. -/
theorem close (expected : Token) (result : β) :
    Parses (do Reader.exactly expected; Pure.pure result) (fun _ : Unit => [expected])
      (fun _ => result) fun _ => True :=
  (pure result).after expected

/-- A last step that reads nothing more. -/
theorem returns (parses : Parses reader yield value follow) {next : α → Reader β}
    (change : α → β) (same : ∀ result, next result = Pure.pure (change result)) :
    Parses (reader >>= next) yield (fun tree => change (value tree)) follow where
  sound := by
    intro tokens result rest done
    obtain ⟨found, between, first, last⟩ := bind_eq_done_iff.mp done
    rw [same] at last
    cases last
    obtain ⟨tree, rfl, rfl⟩ := parses.sound first
    exact ⟨tree, rfl, rfl⟩
  complete tree rest follows :=
    bind_eq_done_iff.mpr ⟨_, _, parses.complete tree follows, by rw [same]; rfl⟩
  unique := parses.unique

theorem map (parses : Parses reader yield value follow) (change : α → β) :
    Parses (do let result ← reader; Pure.pure (change result)) yield
      (fun tree => change (value tree)) follow :=
  parses.returns change fun _ => rfl

/-! ## One or the other -/

theorem commit (parses : Parses reader yield value follow) :
    Parses (Reader.commit reader) yield value follow where
  sound := by
    intro tokens result rest done
    refine parses.sound ?_
    unfold Reader.commit at done
    split at done
    · cases done
    · exact done
  complete := by
    intro tree rest follows
    rw [Reader.commit, parses.complete tree follows]
  unique := parses.unique

theorem orElse (parses : Parses reader yield value follow) {second : Reader α}
    {otherYield : Other → List Token} {otherValue : Other → α}
    (others : Parses second otherYield otherValue follow)
    (misses : ∀ tree rest, follow rest → Misses reader (otherYield tree ++ rest)) :
    Parses (Reader.orElse reader second) (Sum.elim yield otherYield) (Sum.elim value otherValue)
      follow where
  sound := by
    intro tokens result rest done
    unfold Reader.orElse at done
    split at done
    · obtain ⟨tree, split, equal⟩ := others.sound done
      exact ⟨.inr tree, split, equal⟩
    · obtain ⟨tree, split, equal⟩ := parses.sound done
      exact ⟨.inl tree, split, equal⟩
  complete := by
    intro tree rest follows
    cases tree with
    | inl tree =>
        rw [Sum.elim_inl, Sum.elim_inl, Reader.orElse, parses.complete tree follows]
    | inr tree =>
        obtain ⟨stand, missed⟩ := misses tree rest follows
        rw [Sum.elim_inr, Sum.elim_inr, Reader.orElse, missed]
        exact others.complete tree follows
  unique := by
    intro first second rest other follows otherFollows equal
    cases first with
    | inl first =>
        cases second with
        | inl second => rw [parses.unique follows otherFollows equal]
        | inr second =>
            refine absurd (misses second other otherFollows) ?_
            rw [Sum.elim_inl, Sum.elim_inr] at equal
            exact equal ▸ parses.not_misses first follows
    | inr first =>
        cases second with
        | inl second =>
            refine absurd (misses first rest follows) ?_
            rw [Sum.elim_inl, Sum.elim_inr] at equal
            exact equal ▸ parses.not_misses second otherFollows
        | inr second => rw [others.unique follows otherFollows equal]

theorem optional (parses : Parses reader yield value follow) {stop : List Token → Prop}
    (stops : ∀ rest, stop rest → follow rest ∧ Misses reader rest) :
    Parses (Reader.optional reader) (fun tree => tree.elim [] yield) (Option.map value)
      stop where
  sound := by
    intro tokens result rest done
    unfold Reader.optional at done
    split at done
    next found between first =>
      cases done
      obtain ⟨tree, split, equal⟩ := parses.sound first
      exact ⟨some tree, split, congrArg some equal⟩
    next =>
      cases done
      exact ⟨none, rfl, rfl⟩
    next => cases done
  complete := by
    intro tree rest ends
    cases tree with
    | none =>
        obtain ⟨stand, missed⟩ := (stops rest ends).2
        change Reader.optional reader rest = _
        rw [Reader.optional, missed]
        rfl
    | some tree =>
        have done := parses.complete tree (stops rest ends).1
        change Reader.optional reader (yield tree ++ rest) = _
        rw [Reader.optional, done]
        rfl
  unique := by
    intro first second rest other ends otherEnds equal
    obtain ⟨follows, misses⟩ := stops rest ends
    obtain ⟨otherFollows, otherMisses⟩ := stops other otherEnds
    cases first with
    | none =>
        cases second with
        | none => rfl
        | some second =>
            change rest = yield second ++ other at equal
            exact absurd (equal ▸ misses) (parses.not_misses second otherFollows)
    | some first =>
        cases second with
        | none =>
            change yield first ++ rest = other at equal
            exact absurd (equal ▸ otherMisses) (parses.not_misses first follows)
        | some second => rw [parses.unique follows otherFollows equal]

/-! ## Any number -/

private theorem manyWithin_sound (parses : Parses reader yield value follow) (fuel : Nat)
    {tokens rest : List Token} {results : List α}
    (done : manyWithin reader fuel tokens = .done results rest) :
    ∃ trees : List Tree, tokens = trees.flatMap yield ++ rest ∧ trees.map value = results := by
  induction fuel generalizing tokens results with
  | zero =>
      cases done
      exact ⟨[], rfl, rfl⟩
  | succ fuel induction =>
      rw [manyWithin_succ] at done
      split at done
      next =>
        cases done
        exact ⟨[], rfl, rfl⟩
      next => cases done
      next found between first =>
        split at done
        next later after others =>
          cases done
          obtain ⟨tree, rfl, rfl⟩ := parses.sound first
          obtain ⟨trees, rfl, rfl⟩ := induction others
          exact ⟨tree :: trees, by rw [List.flatMap_cons, List.append_assoc], rfl⟩
        next => cases done
        next => cases done

section Many

variable (parses : Parses reader yield value follow) {stop : List Token → Prop}
  (again : ∀ tree rest, follow (yield tree ++ rest))
  (stops : ∀ rest, stop rest → follow rest ∧ Misses reader rest)

include again stops

private theorem follow_flatMap (trees : List Tree) {rest : List Token} (ends : stop rest) :
    follow (trees.flatMap yield ++ rest) := by
  cases trees with
  | nil => exact (stops rest ends).1
  | cons tree trees =>
      rw [List.flatMap_cons, List.append_assoc]
      exact again tree _

include parses

private theorem manyWithin_complete (trees : List Tree) {fuel : Nat}
    (enough : trees.length ≤ fuel) {rest : List Token} (ends : stop rest) :
    manyWithin reader fuel (trees.flatMap yield ++ rest) = .done (trees.map value) rest := by
  induction trees generalizing fuel with
  | nil =>
      cases fuel with
      | zero => rfl
      | succ fuel =>
          obtain ⟨stand, missed⟩ := (stops rest ends).2
          rw [List.flatMap_nil, List.nil_append, manyWithin_succ, missed]
          rfl
  | cons tree trees induction =>
      cases fuel with
      | zero => cases enough
      | succ fuel =>
          have first := parses.complete tree (follow_flatMap again stops trees ends)
          have others := induction (Nat.le_of_succ_le_succ enough)
          rw [List.flatMap_cons, List.append_assoc, manyWithin_succ, first]
          dsimp only
          rw [others]
          rfl

private theorem flatMap_unique {first second : List Tree} {rest other : List Token}
    (ends : stop rest) (otherEnds : stop other)
    (equal : first.flatMap yield ++ rest = second.flatMap yield ++ other) : first = second := by
  -- a list that ends first would leave something the reader misses
  have differ : ∀ (tree : Tree) (trees : List Tree) {rest other : List Token}, stop rest →
      stop other → yield tree ++ (trees.flatMap yield ++ rest) ≠ other := by
    rintro tree trees rest other ends otherEnds rfl
    exact parses.not_misses tree (follow_flatMap again stops trees ends) (stops _ otherEnds).2
  induction first generalizing second with
  | nil =>
      cases second with
      | nil => rfl
      | cons tree trees =>
          rw [List.flatMap_cons, List.append_assoc] at equal
          exact absurd equal.symm (differ tree trees otherEnds ends)
  | cons tree trees induction =>
      rw [List.flatMap_cons, List.append_assoc] at equal
      cases second with
      | nil => exact absurd equal (differ tree trees ends otherEnds)
      | cons secondTree secondTrees =>
          rw [List.flatMap_cons, List.append_assoc] at equal
          have same : tree = secondTree := parses.unique (follow_flatMap again stops trees ends)
            (follow_flatMap again stops secondTrees otherEnds) equal
          subst secondTree
          rw [induction (List.append_cancel_left equal)]

/-- Items until one misses, if an item may follow an item. -/
theorem many (nonempty : ∀ tree, yield tree ≠ []) :
    Parses (Reader.many reader) (fun trees : List Tree => trees.flatMap yield) (List.map value)
      stop where
  sound done := parses.manyWithin_sound _ done
  complete := by
    intro trees rest ends
    have long : trees.length ≤ (trees.flatMap yield).length := by
      induction trees with
      | nil => exact Nat.le_refl 0
      | cons tree trees induction =>
          have one := List.length_pos_iff.mpr (nonempty tree)
          rw [List.flatMap_cons, List.length_append, List.length_cons]
          omega
    refine parses.manyWithin_complete again stops trees ?_ ends
    rw [List.length_append]
    omega
  unique ends otherEnds equal := parses.flatMap_unique again stops ends otherEnds equal

theorem many1 (nonempty : ∀ tree, yield tree ≠ []) :
    Parses (Reader.many1 reader) (Listed.yield yield yield) (Listed.values value) stop :=
  (parses.bind (fun first => (parses.many again stops nonempty).map (first :: ·))
    fun _ _ ends => follow_flatMap again stops _ ends).transport Listed.equivProd
    (fun _ => rfl) fun _ => rfl

end Many

section Separated

variable (parses : Parses reader yield value follow) (separator : Token)
  (again : ∀ rest, follow (separator :: rest)) {stop : List Token → Prop}

include parses again

theorem separated1 (stops : ∀ rest, stop rest → follow rest ∧ rest.head? ≠ some separator) :
    Parses (Reader.separated1 reader (Reader.exactly separator))
      (Listed.yield yield fun tree => separator :: yield tree) (Listed.values value) stop := by
  have ends : ∀ rest, stop rest →
      follow rest ∧ Misses (do Reader.exactly separator; reader) rest :=
    fun rest stopped => ⟨(stops rest stopped).1, (misses_exactly (stops rest stopped).2).bind _⟩
  have another : ∀ tree rest, follow (separator :: yield tree ++ rest) := fun _ _ => again _
  have others := (parses.after separator).many another ends fun _ => List.cons_ne_nil _ _
  exact (parses.bind (fun first => others.map (first :: ·))
    fun _ _ => follow_flatMap another ends _).transport Listed.equivProd (fun _ => rfl) fun _ => rfl

theorem separated (stops : ∀ rest, stop rest →
      follow rest ∧ rest.head? ≠ some separator ∧ Misses reader rest) :
    Parses (Reader.separated reader (Reader.exactly separator))
      (fun trees : Option (Listed Tree) =>
        trees.elim [] (Listed.yield yield fun tree => separator :: yield tree))
      (fun trees => trees.elim [] (Listed.values value)) stop := by
  have items := parses.separated1 separator again fun rest stopped =>
    ⟨(stops rest stopped).1, (stops rest stopped).2.1⟩
  have nothing := (Parses.pure ([] : List α)).mono fun rest (_ : stop rest) => trivial
  have either := items.orElse nothing fun _ rest stopped => (stops rest stopped).2.2.bind _
  refine either.transport (Equiv.optionEquivSumPUnit _) ?_ ?_
  · intro trees
    cases trees <;> rfl
  · intro trees
    cases trees <;> rfl

end Separated

end Parses

end CodeGraph
