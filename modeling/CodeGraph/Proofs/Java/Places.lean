import CodeGraph.Proofs.Java.Opening

/-!
# The places of a Java source

A place of a source is a part of its tree with the way that leads to it.  The way alone tells
in which scope the place is and which local variables have been met before it, and so the
outline of a source can be read off its places: it has, in preorder, one node for each place
that has a node.
-/

namespace CodeGraph.Java

/-! ## Ways and places -/

/-- How a part of a source is entered, with the parts before it. -/
inductive Step where
  | top (before : List Tree)
  | part (parent : Tree) (before : List Tree)
  | body (method : Tree)
  | member (type body : Tree) (before : List Tree)
  | anonymous (creation body : Tree) (before : List Tree)

/-- The creation of an instance that a step enters a part of. -/
def Step.creation? : Step → Option Tree
  | .part parent _ => parent.creation?
  | _ => none

/-- A part of a source with the way that leads to it, the last step first. -/
structure Place where
  way : List Step
  tree : Tree

/-- In which scope the outlining comes to a place, and what it has met. -/
structure Standing where
  scope : Scope
  progress : Progress := {}

namespace Standing

/-- Inside of a type, or at the top, after some parts. -/
def within (scope : Scope) (before : List Tree) : Standing :=
  ⟨scope, ({} : Progress).after (scope.metParts none before)⟩

def enter (standing : Standing) : Step → Standing
  | .top before => within standing.scope before
  | .part parent before =>
      let own : Met := ⟨standing.scope.declaredLocals parent, 0⟩
      let met := own ++ standing.scope.metParts parent.creation? before
      { standing with progress := standing.progress.after met }
  | .body method =>
      match standing.scope.opening method with
      | .method _ inside locals => ⟨inside, { standing.progress with locals }⟩
      | _ => standing
  | .member type _ before =>
      match standing.scope.opening type with
      | .type _ inside => within inside before
      | _ => standing
  | .anonymous created body before =>
      match standing.scope.currentType with
      | some outer =>
          let number := standing.progress.anonymous + 1
          within (standing.scope.anonymousNode created outer number body).2 before
      | none => standing

/-- Where a way leads from the top. -/
def along (start : Scope) : List Step → Standing
  | [] => ⟨start, {}⟩
  | step :: way => (along start way).enter step

end Standing

/-- The node of a place in the outline. -/
def Place.node? (start : Scope) (place : Place) : Option Node :=
  let standing := Standing.along start place.way
  match standing.scope.anonymous? (place.way.head?.bind Step.creation?) place.tree with
  | some (created, outer) =>
      some (standing.scope.anonymousNode created outer (standing.progress.anonymous + 1)
        place.tree).1
  | none => (standing.scope.opening place.tree).node? standing.progress.locals

mutual

/-- The places in a tree to which a way leads, in preorder. -/
def placesIn (start : Scope) (way : List Step) : Tree → List Place
  | ⟨construct, span, role, children⟩ =>
      let tree : Tree := ⟨construct, span, role, children⟩
      ⟨way, tree⟩ ::
        match (Standing.along start way).scope.opening tree with
        | .leaf _ => []
        | .type _ _ => placesOfMembers start way tree children
        | .method _ _ _ => placesOfBody start way tree children
        | .plain _ => placesOfParts start way tree [] children
termination_by structural tree => tree

def placesOfParts (start : Scope) (way : List Step) (parent : Tree) (before : List Tree) :
    List Tree → List Place
  | [] => []
  | ⟨construct, span, role, children⟩ :: parts =>
      let part : Tree := ⟨construct, span, role, children⟩
      let inner := .part parent before :: way
      (match (Standing.along start way).scope.anonymous? parent.creation? part with
      | some (created, _) =>
          ⟨inner, part⟩ :: placesInside start inner (.anonymous created part) [] children
      | none => placesIn start inner part) ++
        placesOfParts start way parent (before ++ [part]) parts
termination_by structural parts => parts

def placesOfBody (start : Scope) (way : List Step) (method : Tree) : List Tree → List Place
  | [] => []
  | tree :: trees =>
      if tree.role = some .body then placesIn start (.body method :: way) tree
      else placesOfBody start way method trees
termination_by structural trees => trees

def placesOfMembers (start : Scope) (way : List Step) (type : Tree) : List Tree → List Place
  | [] => []
  | ⟨construct, span, role, children⟩ :: trees =>
      if role = some .body then
        placesInside start way (.member type ⟨construct, span, role, children⟩) [] children
      else placesOfMembers start way type trees
termination_by structural trees => trees

/-- The places in trees that a kind of step enters one after the other. -/
def placesInside (start : Scope) (way : List Step) (step : List Tree → Step)
    (before : List Tree) : List Tree → List Place
  | [] => []
  | tree :: trees =>
      placesIn start (step before :: way) tree ++
        placesInside start way step (before ++ [tree]) trees
termination_by structural trees => trees

end

/-- The places of a source. -/
def places (start : Scope) (root : Tree) : List Place :=
  placesInside start [] .top [] root.children

/-! ## The nodes of the places -/

theorem placesIn_eq (start : Scope) (way : List Step) (tree : Tree) :
    placesIn start way tree =
      ⟨way, tree⟩ ::
        match (Standing.along start way).scope.opening tree with
        | .leaf _ => []
        | .type _ _ => placesOfMembers start way tree tree.children
        | .method _ _ _ => placesOfBody start way tree tree.children
        | .plain _ => placesOfParts start way tree [] tree.children := by
  cases tree
  rw [placesIn]

theorem placesOfParts_cons (start : Scope) (way : List Step) (parent : Tree)
    (before : List Tree) (part : Tree) (parts : List Tree) :
    placesOfParts start way parent before (part :: parts) =
      (match (Standing.along start way).scope.anonymous? parent.creation? part with
      | some (created, _) =>
          ⟨.part parent before :: way, part⟩ ::
            placesInside start (.part parent before :: way) (.anonymous created part) []
              part.children
      | none => placesIn start (.part parent before :: way) part) ++
        placesOfParts start way parent (before ++ [part]) parts := by
  cases part
  rw [placesOfParts]

theorem placesOfMembers_cons (start : Scope) (way : List Step) (type part : Tree)
    (parts : List Tree) :
    placesOfMembers start way type (part :: parts) =
      if part.role = some .body then
        placesInside start way (.member type part) [] part.children
      else placesOfMembers start way type parts := by
  cases part
  rw [placesOfMembers]

/-- The outlining gives, with all below them, the nodes of the places. -/
def Outlining.Gives (start : Scope) (action : Outlining (List Node)) (progress : Progress)
    (places : List Place) : Prop :=
  (action.run progress).1.flatMap Node.nodes =
    (places.filterMap (·.node? start)).map Node.alone

theorem Outlining.Gives.append {start : Scope} {first second : Outlining (List Node)}
    {progress : Progress} {early late : List Place} (here : first.Gives start progress early)
    (later : second.Gives start (first.run progress).2 late) :
    Outlining.Gives start (do
      let nodes ← first
      return nodes ++ (← second)) progress (early ++ late) := by
  unfold Gives at here later ⊢
  rw [List.filterMap_append, List.map_append, ← here, ← later, ← List.flatMap_append]
  rfl

/-- The node of a place, if there is one, has what the places below give as its children. -/
theorem Outlining.Gives.cons {start : Scope} {action : Outlining (List Node)}
    {progress : Progress} {place : Place} {below : List Place} {nodes : List Node}
    (answer : (action.run progress).1 =
      match place.node? start with
      | some node => [{ node with children := nodes }]
      | none => nodes)
    (rest : nodes.flatMap Node.nodes = (below.filterMap (·.node? start)).map Node.alone) :
    action.Gives start progress (place :: below) := by
  rw [Gives, answer, List.filterMap_cons]
  cases place.node? start with
  | none => exact rest
  | some node =>
      dsimp only
      rw [List.flatMap_singleton, Node.nodes_eq]
      exact congrArg (node.alone :: ·) rest

/-- Wherever a way leads, the outlining of the tree gives the nodes of the places in it, unless
the tree is the body of an anonymous class. -/
def Charted (start : Scope) (tree : Tree) : Prop :=
  ∀ way, let standing := Standing.along start way
    standing.scope.anonymous? (way.head?.bind Step.creation?) tree = none →
      (standing.scope.outline tree).Gives start standing.progress (placesIn start way tree)

theorem Standing.after_within (inside : Scope) (before : List Tree) (tree : Tree) :
    (within inside before).progress.after (inside.met tree) =
      (within inside (before ++ [tree])).progress := by
  rw [within, within, Scope.metParts_concat, Progress.after_append]
  rfl

theorem Standing.after_part (standing : Standing) (parent : Tree) (before : List Tree)
    (part : Tree) :
    (standing.enter (.part parent before)).progress.after
        (standing.scope.metPart parent.creation? part) =
      (standing.enter (.part parent (before ++ [part]))).progress := by
  rw [enter, enter, ← Progress.after_append, Met.append_assoc, Scope.metParts_concat]

theorem Standing.along_anonymous {start : Scope} {way : List Step} {outer : String}
    (current : (along start way).scope.currentType = some outer) (created body : Tree)
    (before : List Tree) :
    along start (.anonymous created body before :: way) =
      within ((along start way).scope.anonymousNode created outer
        ((along start way).progress.anonymous + 1) body).2 before := by
  rw [along, enter, current]

theorem Scope.currentType_of_anonymous? {scope : Scope} {creation : Option Tree}
    {part created : Tree} {outer : String}
    (found : scope.anonymous? creation part = some (created, outer)) :
    creation = some created ∧ part.construct = .classBody ∧ scope.currentType = some outer := by
  unfold anonymous? at found
  split at found
  · cases found
  · split at found
    next body =>
      obtain ⟨type, current, same⟩ := Option.map_eq_some_iff.mp found
      cases same
      exact ⟨rfl, body, current⟩
    next => cases found

section

variable {start : Scope} {trees : List Tree}

theorem gives_inside {inside : Scope} {way : List Step} {step : List Tree → Step}
    (steady : ∀ before, Standing.along start (step before :: way) = .within inside before)
    (plain : ∀ before, (step before).creation? = none)
    (each : ∀ tree ∈ trees, Charted start tree) (before : List Tree) :
    (inside.outlineAll trees).Gives start (Standing.within inside before).progress
      (placesInside start way step before trees) := by
  induction trees generalizing before with
  | nil => exact rfl
  | cons tree trees induction =>
      obtain ⟨first, rest⟩ := List.forall_mem_cons.mp each
      rw [Scope.outlineAll, placesInside]
      have here := first (step before :: way)
      rw [List.head?_cons, Option.bind_some, plain, steady] at here
      refine (here rfl).append ?_
      rw [Scope.meets_outline]
      have later := induction rest (before ++ [tree])
      rw [← Standing.after_within] at later
      exact later

theorem gives_part {way : List Step} {parent part : Tree} (before : List Tree)
    (whole : Charted start part) (each : ∀ child ∈ part.children, Charted start child) :
    let standing := Standing.along start way
    (standing.scope.outlinePart parent.creation? part).Gives start
      (standing.enter (.part parent before)).progress
      (match standing.scope.anonymous? parent.creation? part with
      | some (created, _) =>
          ⟨.part parent before :: way, part⟩ ::
            placesInside start (.part parent before :: way) (.anonymous created part) []
              part.children
      | none => placesIn start (.part parent before :: way) part) := by
  intro standing
  have here := whole (.part parent before :: way)
  rw [Scope.outlinePart]
  cases found : standing.scope.anonymous? parent.creation? part with
  | none => exact here found
  | some body =>
      obtain ⟨created, outer⟩ := body
      obtain ⟨-, -, current⟩ := Scope.currentType_of_anonymous? found
      let inner : List Step := .part parent before :: way
      have around : (Standing.along start inner).scope.currentType = some outer := current
      have steady := Standing.along_anonymous around created part
      have body : (Standing.along start inner).scope.anonymous?
          (inner.head?.bind Step.creation?) part = some (created, outer) := found
      refine .cons ?_ (gives_inside steady (fun _ => rfl) each [])
      rw [Place.node?]
      dsimp only
      rw [body]
      rfl

theorem gives_parts {way : List Step} {parent : Tree} {parts : List Tree}
    (each : ∀ part ∈ parts, Charted start part ∧ ∀ child ∈ part.children, Charted start child)
    (before : List Tree) :
    let standing := Standing.along start way
    (standing.scope.outlineParts parent.creation? parts).Gives start
      (standing.enter (.part parent before)).progress
      (placesOfParts start way parent before parts) := by
  intro standing
  induction parts generalizing before with
  | nil => exact rfl
  | cons part parts induction =>
      obtain ⟨⟨whole, inner⟩, rest⟩ := List.forall_mem_cons.mp each
      rw [Scope.outlineParts, placesOfParts_cons]
      refine (gives_part before whole inner).append ?_
      rw [Scope.meets_outlinePart _ (Scope.meets_outline _ _), Standing.after_part]
      exact induction rest (before ++ [part])

theorem gives_body {way : List Step} {method : Tree} {node : Node} {inside : Scope}
    {locals : OrderedMap String}
    (opens : (Standing.along start way).scope.opening method = .method node inside locals)
    (each : ∀ tree ∈ trees, Charted start tree) :
    (inside.outlineBody trees).Gives start
      { (Standing.along start way).progress with locals }
      (placesOfBody start way method trees) := by
  induction trees with
  | nil => exact rfl
  | cons tree trees induction =>
      obtain ⟨first, rest⟩ := List.forall_mem_cons.mp each
      rw [Scope.outlineBody, placesOfBody]
      split
      · have here := first (.body method :: way)
        rw [Standing.along, Standing.enter, opens] at here
        exact here rfl
      · exact induction rest

theorem gives_members {way : List Step} {type : Tree} {node : Node} {inside : Scope}
    (opens : (Standing.along start way).scope.opening type = .type node inside)
    (each : ∀ tree ∈ trees, ∀ child ∈ tree.children, Charted start child) :
    (inside.outlineMembers trees).Gives start {} (placesOfMembers start way type trees) := by
  induction trees with
  | nil => exact rfl
  | cons tree trees induction =>
      obtain ⟨first, rest⟩ := List.forall_mem_cons.mp each
      rw [placesOfMembers_cons]
      rcases tree with ⟨construct, span, role, children⟩
      rw [Scope.outlineMembers]
      have steady : ∀ before, Standing.along start
          (.member type ⟨construct, span, role, children⟩ before :: way) =
            .within inside before := by
        intro before
        rw [Standing.along, Standing.enter, opens]
      dsimp only
      split
      · exact gives_inside steady (fun _ => rfl) first []
      · exact induction rest

theorem gives_plain {way : List Step} {tree : Tree} {node : OrderedMap String → Option Node}
    (here : Place.node? start ⟨way, tree⟩ = node (Standing.along start way).progress.locals)
    (each : ∀ part ∈ tree.children,
      Charted start part ∧ ∀ child ∈ part.children, Charted start child) :
    let standing := Standing.along start way
    Outlining.Gives start (do
      let before ← get
      set { before with
        locals := insertAll before.locals (standing.scope.declaredLocals tree) }
      let nodes ← standing.scope.outlineParts tree.creation? tree.children
      match node before.locals with
      | some node => return [{ node with children := nodes }]
      | none => return nodes) standing.progress
      (⟨way, tree⟩ :: placesOfParts start way tree [] tree.children) := by
  intro standing
  refine .cons ?_ (gives_parts each [])
  rw [here]
  have own : (standing.enter (.part tree [])).progress =
      standing.progress.after ⟨standing.scope.declaredLocals tree, 0⟩ := by
    change standing.progress.after (_ ++ {}) = _
    rw [Met.append_nothing]
  rw [own]
  let ran := (standing.scope.outlineParts tree.creation? tree.children).run
    (standing.progress.after ⟨standing.scope.declaredLocals tree, 0⟩)
  have chosen : ∀ choice : Option Node,
      ((match choice with
        | some node => return [{ node with children := ran.1 }]
        | none => return ran.1 : Outlining (List Node)).run ran.2).1 =
      match choice with
      | some node => [{ node with children := ran.1 }]
      | none => ran.1 := by
    intro choice
    cases choice <;> rfl
  exact chosen (node standing.progress.locals)

theorem Scope.children_of_leaf {scope : Scope} {tree : Tree} {node : Node}
    (opens : scope.opening tree = .leaf (some node)) : node.children = [] :=
  (plain_of_leafNode? (eq_leafNode?_of_opening opens).symm).2.2

/-- The outlining of a tree gives the nodes of the places in it. -/
theorem charted (start : Scope) (tree : Tree) :
    Charted start tree ∧ ∀ child ∈ tree.children, Charted start child := by
  -- a type or an anonymous class outlines what stands two levels below, in the body
  induction tree using Tree.induction with
  | step tree induction =>
      have each := fun child member => (induction child member).1
      refine ⟨?_, each⟩
      intro way standing whole
      rw [Scope.outline_eq, placesIn_eq]
      have here : Place.node? start ⟨way, tree⟩ =
          (standing.scope.opening tree).node? standing.progress.locals := by
        unfold Place.node?
        dsimp only
        rw [whole]
      cases opens : standing.scope.opening tree with
      | leaf node =>
          rw [opens] at here
          refine .cons ?_ (rfl : [].flatMap Node.nodes = _)
          rw [here]
          cases node with
          | none => rfl
          | some node =>
              have nothing := Scope.children_of_leaf opens
              cases node
              cases nothing
              rfl
      | type node inside =>
          rw [opens] at here
          have members := gives_members opens fun child member => (induction child member).2
          refine .cons ?_ members
          rw [here]
          rfl
      | method node inside locals =>
          rw [opens] at here
          refine .cons ?_ (gives_body opens each)
          rw [here]
          rfl
      | plain node =>
          rw [opens] at here
          exact gives_plain here induction

end

/-- Below the unit that stands for a source, its outline has the nodes of the places of the
source, in preorder. -/
theorem nodes_outline (file : String) (source : Source) (tree : Tree) :
    (outline file source tree).nodes =
      (outline file source tree).alone ::
        ((places { source, file } tree).filterMap (·.node? { source, file })).map Node.alone := by
  rw [Node.nodes_eq]
  congr 1
  exact gives_inside (fun _ => rfl) (fun _ => rfl)
    (fun child _ => (charted { source, file } child).1) []

end CodeGraph.Java
