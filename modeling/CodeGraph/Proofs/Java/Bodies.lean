import CodeGraph.Proofs.Java.Reading

/-!
# The bodies in a parsed source

The grammar gives the role of a body to blocks and to lists of members only.  So what has this role
in the tree of a source declares nothing and creates no instance.
-/

namespace CodeGraph.Java

/-- A construct that is a list of members or of statements. -/
def Construct.Plain (construct : Construct) : Prop :=
  construct = .classBody ∨ construct = .block ∨ construct = .other
deriving Decidable

/-- What is plain declares nothing and creates no instance. -/
theorem Construct.Plain.declares_nothing {construct : Construct} (plain : construct.Plain) :
    Source.declaresType construct = false ∧ construct ≠ .instanceCreation ∧
      construct ≠ .methodDeclaration := by
  rcases plain with rfl | rfl | rfl <;> decide

/-- Everything in the tree that has the role of a body is plain. -/
def Tree.BodiesPlain (tree : Tree) : Prop := tree.Marks .body fun construct _ => construct.Plain

/-! ## Phrases whose bodies are plain -/

namespace Phrase

variable {ρ : Type} (grammar : Grammar ρ)

/-- Is the phrase a plain construct, directly or by a rule? -/
def isPlain : Phrase ρ → Bool
  | node construct _ => decide construct.Plain
  | rule name =>
      match grammar name with
      | node construct _ => decide construct.Plain
      | _ => false
  | _ => false

mutual

/-- Does the phrase give the role of a body to plain constructs only? -/
def bodiesPlain : Phrase ρ → Bool
  | shows _ | identifier _ | literal | rule _ => true
  | all parts => allBodiesPlain parts
  | any choices => allBodiesPlain choices
  | optional phrase | many phrase | node _ phrase => bodiesPlain phrase
  | inRole role phrase => (role != .body || phrase.isPlain grammar) && bodiesPlain phrase
  | extended start extensions => bodiesPlain start && extensionsBodiesPlain extensions

def allBodiesPlain : List (Phrase ρ) → Bool
  | [] => true
  | phrase :: phrases => bodiesPlain phrase && allBodiesPlain phrases

/-- Extensions also do not make a body of what they extend. -/
def extensionsBodiesPlain : List (Construct × Option Role × Phrase ρ) → Bool
  | [] => true
  | (_, role, phrase) :: extensions =>
      role != some .body && bodiesPlain phrase && extensionsBodiesPlain extensions

end

variable {grammar}

theorem allBodiesPlain_eq (phrases : List (Phrase ρ)) :
    allBodiesPlain grammar phrases = phrases.all (bodiesPlain grammar) := by
  induction phrases with
  | nil => rfl
  | cons first rest induction => rw [allBodiesPlain, induction, List.all_cons]

theorem extensionsBodiesPlain_eq (extensions : List (Construct × Option Role × Phrase ρ)) :
    extensionsBodiesPlain grammar extensions =
      extensions.all fun extension =>
        extension.2.1 != some .body && extension.2.2.bodiesPlain grammar := by
  induction extensions with
  | nil => rfl
  | cons first rest induction => rw [extensionsBodiesPlain, induction, List.all_cons]

end Phrase

theorem Rule.bodiesPlain_phrase (rule : Rule) : (phrase rule).bodiesPlain phrase = true := by
  cases rule <;> rfl

theorem Rule.bodiesPlain_program : program.bodiesPlain phrase = true := rfl

/-! ## What is read -/

namespace Grammar.Reads

variable {ρ : Type} {grammar : Grammar ρ} {phrase : Phrase ρ} {place finish : Place}
  {trees : List Tree}

theorem construct_of_node {construct : Construct}
    (reads : Reads grammar (.node construct phrase) place trees finish) :
    ∀ tree ∈ trees, tree.construct = construct := by
  cases reads with
  | node => exact fun tree member => List.mem_singleton.mp member ▸ rfl

theorem plain_of_isPlain (reads : Reads grammar phrase place trees finish)
    (plain : phrase.isPlain grammar = true) : ∀ tree ∈ trees, tree.construct.Plain := by
  intro tree member
  unfold Phrase.isPlain at plain
  split at plain
  next => exact reads.construct_of_node tree member ▸ of_decide_eq_true plain
  next name =>
    cases reads with
    | rule inner =>
      split at plain
      next same =>
        rw [same] at inner
        exact inner.construct_of_node tree member ▸ of_decide_eq_true plain
      next => cases plain
  next => cases plain

/-- What is read has plain bodies only, if the grammar makes no others. -/
theorem bodiesPlain (rules : ∀ name, (grammar name).bodiesPlain grammar = true)
    (reads : Reads grammar phrase place trees finish)
    (plain : phrase.bodiesPlain grammar = true) : ∀ tree ∈ trees, tree.BodiesPlain := by
  induction reads with
  | shows | allNil | absent | manyNil => exact fun _ member => absurd member List.not_mem_nil
  | identifier | literal => exact List.forall_mem_singleton.mpr (Tree.marks_leaf _ _)
  | rule _ induction => exact induction (rules _)
  | allCons _ _ first rest =>
    rw [Phrase.bodiesPlain, Phrase.allBodiesPlain, Bool.and_eq_true] at plain
    exact List.forall_mem_append.mpr ⟨first plain.1, rest plain.2⟩
  | any isChoice _ induction =>
    rw [Phrase.bodiesPlain, Phrase.allBodiesPlain_eq, List.all_eq_true] at plain
    exact induction (plain _ isChoice)
  | present _ induction => exact induction plain
  | manyCons _ _ first rest => exact List.forall_mem_append.mpr ⟨first plain, rest plain⟩
  | node _ induction =>
    exact List.forall_mem_singleton.mpr (Tree.marks_of_children (induction plain))
  | inRole inner induction =>
    rw [Phrase.bodiesPlain, Bool.and_eq_true, Bool.or_eq_true] at plain
    refine List.forall_mem_map.mpr fun tree isTree => (induction plain.2 tree isTree).inRole ?_
    rintro ⟨⟩
    exact inner.plain_of_isPlain (plain.1.resolve_left (by decide)) tree isTree
  | unextended _ induction =>
    rw [Phrase.bodiesPlain, Bool.and_eq_true] at plain
    exact induction plain.1
  | extended isExtension _ _ before added =>
    have extended := before plain
    rw [Phrase.bodiesPlain, Bool.and_eq_true, Phrase.extensionsBodiesPlain_eq,
      List.all_eq_true] at plain
    obtain ⟨other, phrasePlain⟩ := Bool.and_eq_true_iff.mp (plain.2 _ isExtension)
    refine List.forall_mem_singleton.mpr (Tree.marks_of_children
      (List.forall_mem_append.mpr ⟨?_, added phrasePlain⟩))
    exact List.forall_mem_map.mpr fun tree isTree =>
      (extended tree isTree).inRole fun same => absurd same (by simpa using other)

end Grammar.Reads

/-- What has the role of a body in the tree of a source is plain. -/
theorem Tree.bodiesPlain_of_ofChars? {chars : List Char} {root : Tree}
    (parsed : ofChars? chars = some root) : root.BodiesPlain := by
  obtain ⟨source, children, finish, -, reads, rfl⟩ := reads_of_ofChars? parsed
  have plain := reads.bodiesPlain Rule.bodiesPlain_phrase Rule.bodiesPlain_program
  exact marks_of_children (marks_weave plain _)

end CodeGraph.Java
