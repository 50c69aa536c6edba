import CodeGraph.Proofs.Java.Naming
import CodeGraph.Proofs.Java.Scoping
import CodeGraph.Proofs.Visitor.Sourced

/-!
# The facts of Java sources

The types of a parsed source have names, and so every node of its outline knows its place.
What the standard visitors extract from it never lacks what a relationship starts at.
-/

namespace CodeGraph.Java

/-! ## Names of types -/

namespace Tree

theorem mem_subtrees_of_mem_children {tree part child : Tree} (member : part ∈ tree.subtrees)
    (isChild : child ∈ part.children) : child ∈ tree.subtrees := by
  induction tree using Tree.induction with
  | step tree induction =>
      rw [subtrees_eq] at member
      rcases List.mem_cons.mp member with here | below
      · subst here
        exact subtrees_subset isChild child.self_mem_subtrees
      · obtain ⟨other, isPart, inside⟩ := List.mem_flatMap.mp below
        exact subtrees_subset isPart (induction other isPart inside)

theorem textIn_ne_empty {chars : Array Char} {tree : Tree}
    (within : tree.span.Within chars.size) : tree.textIn chars ≠ "" := by
  have filled : 0 < (tree.chars chars).length := by
    obtain ⟨before, inside⟩ := within
    rw [Tree.chars, Array.length_toList, Array.size_extract]
    omega
  intro nothing
  rw [textIn, String.ofList_eq_empty_iff] at nothing
  rw [nothing] at filled
  exact absurd filled (Nat.lt_irrefl 0)

end Tree

/-- The name of a type is the text of a part that has the role of a name. -/
theorem Source.exists_name_of_namesType {property : Span → Prop} {chars : Array Char} {tree : Tree}
    (all : tree.Names property) {name : String}
    (names : (Source.ofTree chars tree).NamesType tree name) :
    ∃ part : Tree, property part.span ∧ part.textIn chars = name := by
  obtain ⟨part, member, -, text⟩ := names
  obtain ⟨child, found, same⟩ := Option.map_eq_some_iff.mp text
  have isName : child.role = some .name := by simpa using List.find?_some found
  have isPart := Tree.mem_subtrees_of_mem_children member (List.mem_of_find?_eq_some found)
  exact ⟨child, all child isPart isName, same⟩

/-- The names of types in a parsed source have characters. -/
theorem Source.name_ne_empty_of_namesType {chars : List Char} {tree : Tree}
    (parsed : Tree.ofChars? chars = some tree) {name : String}
    (names : (Source.ofTree chars.toArray tree).NamesType tree name) : name ≠ "" := by
  obtain ⟨part, within, rfl⟩ := exists_name_of_namesType (Tree.names_of_ofChars? parsed) names
  have inside : part.span.Within chars.toArray.size := by simpa using within
  exact Tree.textIn_ne_empty inside

/-! ## Nodes that know their place -/

theorem qualify_ne_empty {name : String} (present : name ≠ "") (outer : String) :
    qualify outer name ≠ "" := by
  unfold qualify
  split
  next => exact present
  next => simp

theorem Attributed.name_of_type {source : Source} {tree : Tree} {package : String}
    {occurrence : Occurrence} (attributed : Attributed source tree package occurrence)
    (present : ∀ name, source.NamesType tree name → name ≠ "")
    (isType : occurrence.node.kind.isType = true) :
    ∃ qualified, occurrence.node.qualifiedName = some qualified ∧ qualified ≠ "" := by
  rcases Bool.or_eq_true_iff.mp isType with named | anonymous
  · obtain ⟨-, name, given, -, qualified⟩ := attributed.namedType named
    exact ⟨_, qualified, qualify_ne_empty (present name given) _⟩
  · obtain ⟨outer, number, -, -, qualified⟩ := attributed.anonymousType (by simpa using anonymous)
    exact ⟨_, qualified, by simp⟩

/-- In an outline of a source whose types have names every node knows its place. -/
theorem knowsPlace_outline (file : String) {chars : Array Char} {tree : Tree}
    (present : ∀ name, (Source.ofTree chars tree).NamesType tree name → name ≠ "") :
    ∀ occurrence ∈ (outline file (.ofTree chars tree) tree).occurrences,
      occurrence.KnowsPlace := by
  have attributed := allAttributed_outline file chars tree _ List.mem_cons_self
  intro occurrence member
  have here := attributed occurrence member
  refine ⟨here.name_of_type present, fun isMethod => ?_, fun isCall => (here.call isCall).2⟩
  obtain ⟨owner, name, around, declared, -, qualified⟩ := here.method isMethod
  refine ⟨owner, _, around, ?_, declared, qualified, by simp⟩
  obtain ⟨type, nearest, same⟩ := Option.bind_eq_some_iff.mp around
  obtain ⟨isAbove, isType⟩ := Node.mem_of_nearestType? nearest
  obtain ⟨outer, isNode, here⟩ := Node.mem_occurrences_of_ancestor member type isAbove
  subst here
  obtain ⟨qualified, named, filled⟩ := (attributed outer isNode).name_of_type present isType
  rwa [Option.some.inj (same.symm.trans named)]

/-- Whatever kinds are stopped, no standard visitor fails over the outline of a source whose
types have names, and every relationship comes after the declarations that it needs.  The
types of a source that can be read all have names. -/
theorem outline_sourced :
    (∀ (file : String) (chars : Array Char) (tree : Tree),
      (∀ name, (Source.ofTree chars tree).NamesType tree name → name ≠ "") →
        ∀ stopped, (({} : Extraction).add .standard stopped
          (outline file (.ofTree chars tree) tree)).Sourced) ∧
      ∀ (file text : String) (unit : Node), outlineOfText file text = .ok unit →
        ∀ stopped, (({} : Extraction).add .standard stopped unit).Sourced := by
  constructor
  · intro file chars tree present stopped
    exact Extraction.sourced_of_knowsPlace (knowsPlace_outline file present) stopped
  · intro file text unit read stopped
    unfold outlineOfText at read
    dsimp only at read
    split at read
    next => cases read
    next tree parsed =>
      cases read
      exact Extraction.sourced_of_knowsPlace
        (knowsPlace_outline file fun _ => Source.name_ne_empty_of_namesType parsed) stopped

/-- A class with a method that calls another: the call comes after the method around it.  A
source with a comment and a block can be read. -/
theorem outline_sourced_call :
    let name (start stop : Nat) : Tree :=
      { construct := .identifier, span := ⟨start, stop, 1⟩, role := some .name }
    let call : Tree :=
      { construct := .methodInvocation, span := ⟨17, 20, 1⟩, children := [name 17 18] }
    let body : Tree :=
      { construct := .block, span := ⟨16, 22, 1⟩, role := some .body, children := [call] }
    let method : Tree :=
      { construct := .methodDeclaration, span := ⟨8, 22, 1⟩, children := [name 13 14, body] }
    let members : Tree :=
      { construct := .classBody, span := ⟨7, 23, 1⟩, role := some .body, children := [method] }
    let declared : Tree :=
      { construct := .classDeclaration, span := ⟨0, 23, 1⟩, children := [name 6 7, members] }
    let tree : Tree := { construct := .program, span := ⟨0, 23, 1⟩, children := [declared] }
    let source := Source.ofTree "class A\x7bvoid m()\x7bn();\x7d\x7d".toList.toArray tree
    let extraction := ({} : Extraction).add .standard .empty (outline "A.java" source tree)
    let invokes : EdgeFact := ⟨.invokes, "A.m", "A.n", OrderedMap.ofList [("line", .int 1)]⟩
    (∃ early late, extraction.facts.toList = early ++ .edge invokes :: late ∧
        Declared early .method "A.m") ∧
      ∃ unit, outlineOfText "A.java" "/** a */\x7b\x7d" = .ok unit ∧
        (({} : Extraction).add .standard .empty unit).Sourced := by
  intro name call body method members declared tree source extraction invokes
  have present : ∀ name, source.NamesType tree name → name ≠ "" := by
    have texts : ∀ part ∈ tree.subtrees, Source.declaresType part.construct = true →
        source.childText? part .name ≠ some "" := by
      decide +kernel
    rintro name ⟨part, member, declares, text⟩ nothing
    exact texts part member declares (nothing ▸ text)
  have sourced : extraction.Sourced :=
    outline_sourced.1 "A.java" _ tree present .empty
  have collected : ∃ early, extraction.facts.toList = early ++ .edge invokes :: [] := by
    refine ⟨extraction.facts.toList.take 3, ?_⟩
    decide +kernel
  obtain ⟨early, cut⟩ := collected
  refine ⟨⟨early, [], cut, ?_⟩, ?_⟩
  · exact (sourced.facts early invokes [] cut).1
  · obtain ⟨unit, read⟩ : ∃ unit, outlineOfText "A.java" "/** a */\x7b\x7d" = .ok unit :=
      ⟨_, rfl⟩
    exact ⟨unit, read, outline_sourced.2 "A.java" _ unit read .empty⟩

end CodeGraph.Java
