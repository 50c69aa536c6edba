import CodeGraph.Proofs.Java.Places

/-!
# Ways into a Java source

A way to a place enters, step by step, what the scope before it opens.  So it goes through the
types that are around the place, and the scope that it leads to has just these types.
-/

namespace CodeGraph.Java

/-! ## Ways from the top -/

/-- The way leads from the top of a source to the tree: every step enters what the scope before
it opens. -/
inductive Leads (start : Scope) (root : Tree) : List Step → Tree → Prop where
  | top {before after : List Tree} {tree : Tree} :
      root.children = before ++ tree :: after → Leads start root [.top before] tree
  | part {way : List Step} {parent tree : Tree} {before after : List Tree}
      {node : OrderedMap String → Option Node} :
      Leads start root way parent →
      (Standing.along start way).scope.anonymous? (way.head?.bind Step.creation?) parent = none →
      (Standing.along start way).scope.opening parent = .plain node →
      parent.children = before ++ tree :: after →
      Leads start root (.part parent before :: way) tree
  | body {way : List Step} {method tree : Tree} {node : Node} {inside : Scope}
      {locals : OrderedMap String} :
      Leads start root way method →
      (Standing.along start way).scope.opening method = .method node inside locals →
      tree ∈ method.children →
      Leads start root (.body method :: way) tree
  | member {way : List Step} {type body tree : Tree} {before after : List Tree} {node : Node}
      {inside : Scope} :
      Leads start root way type →
      (Standing.along start way).scope.opening type = .type node inside →
      type.child? .body = some body → body.children = before ++ tree :: after →
      Leads start root (.member type body before :: way) tree
  | anonymous {way : List Step} {parent created body tree : Tree} {earlier before after : List Tree}
      {outer : String} :
      Leads start root (.part parent earlier :: way) body →
      (Standing.along start way).scope.anonymous? parent.creation? body = some (created, outer) →
      body.children = before ++ tree :: after →
      Leads start root (.anonymous created body before :: .part parent earlier :: way) tree

section

variable {start : Scope} {root : Tree}

/-- Every place in the tree is led to, if the tree itself is and is no anonymous class. -/
def Led (start : Scope) (root tree : Tree) : Prop :=
  ∀ way, Leads start root way tree →
    (Standing.along start way).scope.anonymous? (way.head?.bind Step.creation?) tree = none →
    ∀ place ∈ placesIn start way tree, Leads start root place.way place.tree

theorem leads_inside {way : List Step} {step : List Tree → Step} {whole : List Tree}
    (enters : ∀ before tree after, whole = before ++ tree :: after →
      Leads start root (step before :: way) tree)
    (plain : ∀ before, (step before).creation? = none)
    (each : ∀ tree ∈ whole, Led start root tree) {before trees : List Tree}
    (split : whole = before ++ trees) :
    ∀ place ∈ placesInside start way step before trees,
      Leads start root place.way place.tree := by
  induction trees generalizing before with
  | nil =>
      rw [placesInside]
      exact fun _ member => absurd member List.not_mem_nil
  | cons tree trees induction =>
      rw [placesInside]
      intro place member
      rcases List.mem_append.mp member with here | later
      · have inWhole : tree ∈ whole := by simp [split]
        refine each tree inWhole _ (enters before tree trees split) ?_ place here
        rw [List.head?_cons, Option.bind_some, plain]
        rfl
      · exact induction (by simp [split]) place later

theorem leads_parts {way : List Step} {parent : Tree} {node : OrderedMap String → Option Node}
    (leads : Leads start root way parent)
    (apart : (Standing.along start way).scope.anonymous? (way.head?.bind Step.creation?)
      parent = none)
    (opens : (Standing.along start way).scope.opening parent = .plain node)
    (each : ∀ part ∈ parent.children,
      Led start root part ∧ ∀ child ∈ part.children, Led start root child)
    {before parts : List Tree} (split : parent.children = before ++ parts) :
    ∀ place ∈ placesOfParts start way parent before parts,
      Leads start root place.way place.tree := by
  induction parts generalizing before with
  | nil =>
      rw [placesOfParts]
      exact fun _ member => absurd member List.not_mem_nil
  | cons part parts induction =>
      have inWhole : part ∈ parent.children := by simp [split]
      obtain ⟨whole, inner⟩ := each part inWhole
      have here : Leads start root (.part parent before :: way) part :=
        .part leads apart opens split
      rw [placesOfParts_cons]
      intro place member
      rcases List.mem_append.mp member with first | later
      · cases found : (Standing.along start way).scope.anonymous? parent.creation? part with
        | none =>
            rw [found] at first
            exact whole _ here found place first
        | some body =>
            rw [found] at first
            rcases List.mem_cons.mp first with rfl | inside
            · exact here
            · exact leads_inside (fun _ _ _ cut => .anonymous here found cut) (fun _ => rfl) inner
                rfl place inside
      · exact induction (by simp [split]) place later

theorem placesOfMembers_eq (start : Scope) (way : List Step) (type : Tree) (parts : List Tree) :
    placesOfMembers start way type parts =
      match parts.find? (·.role == some .body) with
      | none => []
      | some body => placesInside start way (.member type body) [] body.children := by
  induction parts with
  | nil => rfl
  | cons part parts induction =>
      rw [placesOfMembers_cons, List.find?_cons, induction]
      by_cases isBody : part.role = some .body
      · rw [if_pos isBody, isBody]
        rfl
      · rw [if_neg isBody, beq_eq_false_iff_ne.mpr isBody]

theorem placesOfBody_eq (start : Scope) (way : List Step) (method : Tree) (parts : List Tree) :
    placesOfBody start way method parts =
      match parts.find? (·.role == some .body) with
      | none => []
      | some body => placesIn start (.body method :: way) body := by
  induction parts with
  | nil => rfl
  | cons part parts induction =>
      rw [placesOfBody, List.find?_cons, induction]
      by_cases isBody : part.role = some .body
      · rw [if_pos isBody, isBody]
        rfl
      · rw [if_neg isBody, beq_eq_false_iff_ne.mpr isBody]

theorem leads_placesIn (tree : Tree) :
    Led start root tree ∧ ∀ child ∈ tree.children, Led start root child := by
  induction tree using Tree.induction with
  | step tree induction =>
      have each := fun child member => (induction child member).1
      refine ⟨?_, each⟩
      intro way leads apart place member
      rw [placesIn_eq] at member
      rcases List.mem_cons.mp member with rfl | below
      · exact leads
      · cases opens : (Standing.along start way).scope.opening tree with
        | leaf node =>
            rw [opens] at below
            exact absurd below List.not_mem_nil
        | type node inside =>
            rw [opens] at below
            dsimp only at below
            rw [placesOfMembers_eq] at below
            cases found : tree.child? .body with
            | none =>
                rw [← Tree.child?, found] at below
                exact absurd below List.not_mem_nil
            | some body =>
                rw [← Tree.child?, found] at below
                have isChild : body ∈ tree.children := List.mem_of_find?_eq_some found
                exact leads_inside (fun _ _ _ cut => .member leads opens found cut)
                  (fun _ => rfl) (induction body isChild).2 rfl place below
        | method node inside locals =>
            rw [opens] at below
            dsimp only at below
            rw [placesOfBody_eq] at below
            cases found : tree.child? .body with
            | none =>
                rw [← Tree.child?, found] at below
                exact absurd below List.not_mem_nil
            | some body =>
                rw [← Tree.child?, found] at below
                have isChild : body ∈ tree.children := List.mem_of_find?_eq_some found
                exact each body isChild _ (.body leads opens isChild) rfl place below
        | plain node =>
            rw [opens] at below
            exact leads_parts leads apart opens induction rfl place below

theorem leads_of_mem_places {place : Place} (member : place ∈ places start root) :
    Leads start root place.way place.tree :=
  leads_inside (fun _ _ _ cut => .top cut) (fun _ => rfl)
    (fun child _ => (leads_placesIn child).1) rfl place member

end

/-! ## Types around a place -/

/-- The members in the body of a type; those of an enumeration stand together. -/
def Tree.members (body : Tree) : List Tree :=
  body.children.flatMap fun child =>
    if child.construct = .enumMembers then child.children else [child]

/-- A type around a place: a declaration, or an anonymous class. -/
structure Enclosing where
  qualified : String
  body : Tree
  /-- Is it a declaration with a body of its own, and so are the types around it? -/
  named : Bool

/-- The types that a way goes through, the innermost first. -/
def enclosing (start : Scope) : List Step → List Enclosing
  | [] => []
  | .member type body _ :: way =>
      let around := enclosing start way
      let outer := (around.head?.map (·.qualified)).getD start.source.names.package
      let name := (start.source.typeDeclared? type).getD ""
      let named := around.all (·.named) && (start.source.typeDeclared? body).isNone
      { qualified := qualify outer name, body, named } :: around
  | .anonymous _ body _ :: way =>
      let around := enclosing start way
      let outer := (around.head?.map (·.qualified)).getD ""
      let number := (Standing.along start way).progress.anonymous + 1
      { qualified := outer ++ "$" ++ toString number, body, named := false } :: around
  | .top _ :: way | .part _ _ :: way | .body _ :: way => enclosing start way

/-- A scope with the source, and with these types around. -/
structure Scope.Holds (scope : Scope) (source : Source) (types : List Enclosing) : Prop where
  sameSource : scope.source = source
  sameTypes : scope.types.map (fun type => (type.qualified, type.fields)) =
    types.map fun type => (type.qualified, source.fields type.body)

namespace Scope.Holds

variable {scope : Scope} {source : Source} {types : List Enclosing}

theorem currentType (holds : scope.Holds source types) :
    scope.currentType = types.head?.map (·.qualified) := by
  have same := congrArg (fun list => list.head?.map Prod.fst) holds.sameTypes
  simpa [Scope.currentType, Function.comp_def] using same

theorem inType (holds : scope.Holds source types) {type : TypeScope} {enclosing : Enclosing}
    (sameName : type.qualified = enclosing.qualified)
    (sameFields : type.fields = source.fields enclosing.body) :
    (scope.inType type).Holds source (enclosing :: types) where
  sameSource := holds.sameSource
  sameTypes := by
    rw [Scope.inType, List.map_cons, List.map_cons, sameName, sameFields, holds.sameTypes]

end Scope.Holds

/-- In the scope to which a way leads, the types around are those that the way goes through. -/
theorem Leads.holds {start : Scope} {root tree : Tree} {way : List Step}
    (leads : Leads start root way tree) (bare : start.types = []) :
    (Standing.along start way).scope.Holds start.source (enclosing start way) := by
  induction leads with
  | top => exact ⟨rfl, congrArg _ bare⟩
  | part _ _ _ _ induction => exact induction
  | body _ opens _ induction =>
      obtain ⟨owner, name, -, -, -, rfl, rfl⟩ := Scope.of_opening_method opens
      rw [Standing.along, Standing.enter, opens]
      exact ⟨induction.sameSource, induction.sameTypes⟩
  | @member way type body tree before after node inside _ opens found _ induction =>
      obtain ⟨name, declared, same⟩ := Scope.of_opening_type opens
      rw [induction.sameSource] at declared
      obtain ⟨-, rfl⟩ := Prod.mk.inj same
      rw [Standing.along, Standing.enter, opens]
      refine induction.inType ?_ ?_
      · dsimp only
        rw [induction.currentType, induction.sameSource, declared]
        cases (enclosing start way).head? <;> rfl
      · dsimp only
        rw [found, induction.sameSource]
  | @anonymous way parent created body tree earlier before after outer _ found _ induction =>
      obtain ⟨-, -, current⟩ := Scope.currentType_of_anonymous? found
      have around : (Standing.along start (.part parent earlier :: way)).scope.currentType =
        some outer := current
      rw [Standing.along_anonymous around]
      refine induction.inType ?_ ?_
      · have nearest : some outer = (enclosing start way).head?.map (·.qualified) :=
          around.symm.trans induction.currentType
        dsimp only [Scope.anonymousNode, enclosing]
        rw [← nearest]
        rfl
      · exact congrArg (Source.fields · body) induction.sameSource

theorem Scope.anonymous?_of_other (scope : Scope) (creation : Option Tree) {part : Tree}
    (other : part.construct ≠ .classBody) : scope.anonymous? creation part = none := by
  unfold anonymous?
  split
  · rfl
  · exact if_neg other

/-- The place of a call has the node of the call. -/
theorem Scope.Holds.node?_of_call {start : Scope} {place : Place} {types : List Enclosing}
    (holds : (Standing.along start place.way).scope.Holds start.source types)
    (call : place.tree.construct = .methodInvocation) {name : String}
    (named : start.source.childText? place.tree .name = some name) :
    place.node? start = some ((Standing.along start place.way).scope.methodCall
      (Standing.along start place.way).progress.locals place.tree name) := by
  have whole := (Standing.along start place.way).scope.anonymous?_of_other
    (place.way.head?.bind Step.creation?) (by rw [call]; decide : place.tree.construct ≠ .classBody)
  unfold Place.node?
  dsimp only
  rw [whole]
  dsimp only
  rw [Scope.opening, call]
  dsimp only
  rw [holds.sameSource, named]
  rfl

end CodeGraph.Java
