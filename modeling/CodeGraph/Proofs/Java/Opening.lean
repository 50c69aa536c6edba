import CodeGraph.Proofs.Java.Scoping

/-!
# How Java sources are opened

The outlining of a part goes by what its scope opens: nothing, a type, a method, or a part in
the scope of which its own parts are.  What it leaves behind comes after what it has found: the
local variables that were met, and the number of anonymous classes.
-/

namespace CodeGraph.Java

/-! ## Openings -/

/-- What the outline of a source makes of a part of its tree. -/
inductive Opening where
  | leaf (node : Option Node)
  | type (node : Node) (inside : Scope)
  | method (node : Node) (inside : Scope) (locals : OrderedMap String)
  /-- A part in whose scope its own parts are.  Its node may depend on the local variables. -/
  | plain (node : OrderedMap String → Option Node)

def Opening.node? (opening : Opening) (locals : OrderedMap String) : Option Node :=
  match opening with
  | leaf node => node
  | type node _ | method node _ _ => some node
  | plain node => node locals

/-- The name that a declaration of a type gives it. -/
def Source.typeDeclared? (source : Source) (tree : Tree) : Option String :=
  if declaresType tree.construct then source.childText? tree .name else none

/-- The tree itself, if an instance is created in it. -/
def Tree.creation? (tree : Tree) : Option Tree :=
  if tree.construct = .instanceCreation then some tree else none

namespace Scope

def opening (scope : Scope) (tree : Tree) : Opening :=
  match tree.construct with
  | .packageDeclaration | .importDeclaration | .comment => .leaf (scope.leafNode? tree)
  | .classDeclaration | .interfaceDeclaration | .recordDeclaration | .enumDeclaration
  | .annotationTypeDeclaration =>
      match scope.source.childText? tree .name with
      | none => .plain fun _ => none
      | some name =>
          let (node, inside) := scope.typeNode (typeKind tree.construct) tree name
          .type node inside
  | .methodDeclaration | .constructorDeclaration | .compactConstructor =>
      match scope.currentType, scope.methodName? tree with
      | some owner, some name =>
          .method (scope.methodNode tree owner name) (scope.inMethod (member name owner))
            (OrderedMap.ofList (scope.source.parameters tree))
      | _, _ => .plain fun _ => none
  | .methodInvocation =>
      .plain fun locals => (scope.source.childText? tree .name).map (scope.methodCall locals tree)
  | .constructorInvocation => .plain fun _ => some (scope.constructorCall tree)
  | .instanceCreation => .plain fun _ => some (scope.creation tree)
  | _ => .plain fun _ => scope.plainNode? tree

/-- Declarations of types open types, and declarations of methods in a type open methods. -/
theorem opening_cases (scope : Scope) (tree : Tree) :
    (∃ name, scope.source.typeDeclared? tree = some name ∧
      scope.opening tree = .type (scope.typeNode (typeKind tree.construct) tree name).1
        (scope.typeNode (typeKind tree.construct) tree name).2) ∨
    (scope.source.typeDeclared? tree = none ∧
      ((∃ owner name, scope.currentType = some owner ∧ scope.methodName? tree = some name ∧
        scope.opening tree = .method (scope.methodNode tree owner name)
          (scope.inMethod (member name owner))
          (OrderedMap.ofList (scope.source.parameters tree))) ∨
      (∃ node, scope.opening tree = .leaf node) ∨ ∃ node, scope.opening tree = .plain node)) := by
  rcases tree with ⟨construct, span, role, children⟩
  unfold opening Source.typeDeclared?
  cases construct
  case classDeclaration | interfaceDeclaration | recordDeclaration | enumDeclaration
      | annotationTypeDeclaration =>
    simp only [Source.declaresType, reduceIte]
    cases scope.source.childText? _ _ with
    | none => exact .inr ⟨rfl, .inr (.inr ⟨_, rfl⟩)⟩
    | some name => exact .inl ⟨name, rfl, rfl⟩
  case methodDeclaration | constructorDeclaration | compactConstructor =>
    refine .inr ⟨rfl, ?_⟩
    dsimp only
    cases scope.currentType with
    | none => exact .inr (.inr ⟨_, rfl⟩)
    | some owner =>
        cases scope.methodName? _ with
        | none => exact .inr (.inr ⟨_, rfl⟩)
        | some name => exact .inl ⟨owner, name, rfl, rfl, rfl⟩
  case packageDeclaration | importDeclaration | comment =>
    exact .inr ⟨rfl, .inr (.inl ⟨_, rfl⟩)⟩
  all_goals exact .inr ⟨rfl, .inr (.inr ⟨_, rfl⟩)⟩

theorem of_opening_type {scope inside : Scope} {tree : Tree} {node : Node}
    (opens : scope.opening tree = .type node inside) :
    ∃ name, scope.source.typeDeclared? tree = some name ∧
      (node, inside) = scope.typeNode (typeKind tree.construct) tree name := by
  rcases scope.opening_cases tree with ⟨name, declared, same⟩ |
    ⟨-, ⟨_, _, -, -, same⟩ | ⟨_, same⟩ | ⟨_, same⟩⟩ <;> rw [same] at opens <;> cases opens
  exact ⟨name, declared, rfl⟩

theorem of_opening_method {scope inside : Scope} {tree : Tree} {node : Node}
    {locals : OrderedMap String} (opens : scope.opening tree = .method node inside locals) :
    ∃ owner name, scope.currentType = some owner ∧ scope.methodName? tree = some name ∧
      node = scope.methodNode tree owner name ∧ inside = scope.inMethod (member name owner) ∧
      locals = OrderedMap.ofList (scope.source.parameters tree) := by
  rcases scope.opening_cases tree with ⟨_, -, same⟩ |
    ⟨-, ⟨owner, name, current, named, same⟩ | ⟨_, same⟩ | ⟨_, same⟩⟩ <;>
    rw [same] at opens <;> cases opens
  exact ⟨owner, name, current, named, rfl, rfl, rfl⟩

theorem eq_leafNode?_of_opening {scope : Scope} {tree : Tree} {node : Option Node}
    (opens : scope.opening tree = .leaf node) : node = scope.leafNode? tree := by
  unfold opening at opens
  split at opens
  case h_1 | h_2 | h_3 => exact (Opening.leaf.inj opens).symm
  case h_4 | h_5 | h_6 | h_7 | h_8 => split at opens <;> cases opens
  case h_9 | h_10 | h_11 => split at opens <;> cases opens
  all_goals cases opens

theorem typeDeclared?_eq_none {scope : Scope} {tree : Tree}
    (other : ∀ node inside, scope.opening tree ≠ .type node inside) :
    scope.source.typeDeclared? tree = none := by
  rcases scope.opening_cases tree with ⟨_, -, same⟩ | ⟨nothing, -⟩
  · exact absurd same (other _ _)
  · exact nothing

/-- If the part of a creation is the body of an anonymous class: the creation, and the type
around it. -/
def anonymous? (scope : Scope) (creation : Option Tree) (part : Tree) : Option (Tree × String) :=
  match creation with
  | none => none
  | some created =>
      if part.construct = .classBody then scope.currentType.map (created, ·) else none

def outlinePart (scope : Scope) (creation : Option Tree) (part : Tree) :
    Outlining (List Node) :=
  match scope.anonymous? creation part with
  | some (created, outer) => do
      let number := (← get).anonymous + 1
      modify fun progress => { progress with anonymous := number }
      let (node, inside) := scope.anonymousNode created outer number part
      let nodes ← afresh (inside.outlineAll part.children)
      return [{ node with children := nodes }]
  | none => scope.outline part

/-- The nodes of parts that stand side by side, perhaps in the creation of an instance. -/
def outlineParts (scope : Scope) (creation : Option Tree) : List Tree → Outlining (List Node)
  | [] => return []
  | part :: parts => do
      let nodes ← outlinePart scope creation part
      return nodes ++ (← outlineParts scope creation parts)

theorem outlineAll_eq (scope : Scope) (trees : List Tree) :
    scope.outlineAll trees = scope.outlineParts none trees := by
  induction trees with
  | nil => rfl
  | cons tree trees induction =>
      rw [outlineAll, outlineParts, induction]
      rfl

theorem outlineCreated_eq (scope : Scope) (created : Tree) (trees : List Tree) :
    scope.outlineCreated created trees = scope.outlineParts (some created) trees := by
  induction trees with
  | nil => rfl
  | cons tree trees induction =>
      rcases tree with ⟨construct, span, role, children⟩
      rw [outlineParts, outlinePart, anonymous?, ← induction, outlineCreated.eq_def]
      by_cases body : construct = .classBody
      · subst body
        rw [if_pos rfl]
        cases scope.currentType <;> rfl
      · rw [if_neg body]
        cases construct <;> first | rfl | exact absurd rfl body

/-- The outline of a tree goes by how the scope opens it. -/
theorem outline_eq (scope : Scope) (tree : Tree) :
    scope.outline tree =
      match scope.opening tree with
      | .leaf node => return node.toList
      | .type node inside => do
          let nodes ← afresh (inside.outlineMembers tree.children)
          return [{ node with children := nodes }]
      | .method node inside locals => do
          let nodes ← withLocals locals (inside.outlineBody tree.children)
          return [{ node with children := nodes }]
      | .plain node => do
          let before ← get
          set { before with locals := insertAll before.locals (scope.declaredLocals tree) }
          let nodes ← scope.outlineParts tree.creation? tree.children
          match node before.locals with
          | some node => return [{ node with children := nodes }]
          | none => return nodes := by
  rcases tree with ⟨construct, span, role, children⟩
  by_cases creates : construct = .instanceCreation
  · subst creates
    rw [Tree.creation?, if_pos rfl, ← outlineCreated_eq]
    rfl
  · rw [Tree.creation?, if_neg creates, ← outlineAll_eq]
    cases construct
    case instanceCreation => exact absurd rfl creates
    case classDeclaration | interfaceDeclaration | recordDeclaration | enumDeclaration
        | annotationTypeDeclaration =>
      rw [outline, opening]
      dsimp only
      cases scope.source.childText? _ _ <;> rfl
    case methodDeclaration | constructorDeclaration | compactConstructor =>
      rw [outline, opening]
      dsimp only
      cases scope.currentType with
      | none => rfl
      | some owner => cases scope.methodName? _ <;> rfl
    case methodInvocation =>
      rw [outline, opening]
      dsimp only
      cases scope.source.childText? _ _ <;> rfl
    all_goals rfl

end Scope

/-! ## What is met on the way -/

/-- What the outlining of a part meets: variables with the names of their types, and bodies of
anonymous classes. -/
structure Met where
  locals : List (String × String) := []
  bodies : Nat := 0

namespace Met

def append (first second : Met) : Met :=
  ⟨first.locals ++ second.locals, first.bodies + second.bodies⟩

instance : Append Met := ⟨append⟩

@[simp] theorem locals_append (first second : Met) :
    (first ++ second).locals = first.locals ++ second.locals := rfl

theorem append_assoc (first second third : Met) :
    first ++ second ++ third = first ++ (second ++ third) :=
  congrArg₂ Met.mk (List.append_assoc ..) (Nat.add_assoc ..)

@[simp] theorem nothing_append (met : Met) : ({} : Met) ++ met = met :=
  congrArg₂ Met.mk (List.nil_append _) (Nat.zero_add _)

@[simp] theorem append_nothing (met : Met) : met ++ ({} : Met) = met :=
  congrArg₂ Met.mk (List.append_nil _) (Nat.add_zero _)

end Met

/-- What had been met before, and what has been met since. -/
def Progress.after (progress : Progress) (met : Met) : Progress :=
  ⟨insertAll progress.locals met.locals, progress.anonymous + met.bodies⟩

theorem Progress.after_append (progress : Progress) (first second : Met) :
    progress.after (first ++ second) = (progress.after first).after second :=
  congrArg₂ Progress.mk List.foldl_append (Nat.add_assoc ..).symm

namespace Scope

mutual

/-- What is met in a tree.  Local variables inside of methods and types in it are not. -/
def met (scope : Scope) : Tree → Met
  | ⟨construct, span, role, children⟩ =>
      let tree : Tree := ⟨construct, span, role, children⟩
      match scope.opening tree with
      | .leaf _ | .type _ _ => {}
      | .method _ inside _ => { bodies := (metBody inside children).bodies }
      | .plain _ => ⟨scope.declaredLocals tree, 0⟩ ++ metParts scope tree.creation? children

/-- What is met in parts that stand side by side. -/
def metParts (scope : Scope) (creation : Option Tree) : List Tree → Met
  | [] => {}
  | part :: parts =>
      (match scope.anonymous? creation part with
      | some _ => { bodies := 1 }
      | none => met scope part) ++ metParts scope creation parts

def metBody (scope : Scope) : List Tree → Met
  | [] => {}
  | tree :: trees => if tree.role = some .body then met scope tree else metBody scope trees

end

theorem met_eq (scope : Scope) (tree : Tree) :
    scope.met tree =
      match scope.opening tree with
      | .leaf _ | .type _ _ => {}
      | .method _ inside _ => { bodies := (inside.metBody tree.children).bodies }
      | .plain _ =>
          ⟨scope.declaredLocals tree, 0⟩ ++ scope.metParts tree.creation? tree.children := by
  cases tree
  rw [met]

def metPart (scope : Scope) (creation : Option Tree) (part : Tree) : Met :=
  match scope.anonymous? creation part with
  | some _ => { bodies := 1 }
  | none => scope.met part

theorem metParts_cons (scope : Scope) (creation : Option Tree) (part : Tree)
    (parts : List Tree) : scope.metParts creation (part :: parts) =
      scope.metPart creation part ++ scope.metParts creation parts := rfl

theorem metParts_concat (scope : Scope) (creation : Option Tree) (parts : List Tree)
    (part : Tree) : scope.metParts creation (parts ++ [part]) =
      scope.metParts creation parts ++ scope.metPart creation part := by
  induction parts with
  | nil => rw [List.nil_append, metParts_cons, metParts, Met.append_nothing, Met.nothing_append]
  | cons first parts induction =>
      rw [List.cons_append, metParts_cons, induction, metParts_cons, Met.append_assoc]

end Scope

/-- Wherever the outlining starts, what it meets comes after what had been met. -/
def Outlining.Meets {α : Type} (action : Outlining α) (met : Met) : Prop :=
  ∀ progress, (action.run progress).2 = progress.after met

namespace Outlining.Meets

variable {α β : Type} {action : Outlining α} {met more : Met}

theorem pure (answer : α) : Meets (Pure.pure answer : Outlining α) {} := fun _ => rfl

theorem bind {next : α → Outlining β} (first : Meets action met)
    (rest : ∀ answer, Meets (next answer) more) : Meets (action >>= next) (met ++ more) := by
  intro progress
  rw [Progress.after_append, ← first progress]
  exact rest _ _

theorem map (meets : Meets action met) (answer : α → β) :
    Meets (do return answer (← action)) met := by
  have joined := meets.bind fun result => pure (answer result)
  rwa [Met.append_nothing] at joined

theorem afresh (action : Outlining α) : Meets (Scope.afresh action) {} := fun _ => rfl

theorem withLocals (meets : Meets action met) (locals : OrderedMap String) :
    Meets (Scope.withLocals locals action) { bodies := met.bodies } := by
  intro progress
  have ended := meets { progress with locals }
  change ({ (action.run { progress with locals }).2 with locals := progress.locals } :
    Progress) = _
  rw [ended]
  rfl

end Outlining.Meets

namespace Scope

theorem meets_outlinePart {scope : Scope} (creation : Option Tree) {part : Tree}
    (meets : (scope.outline part).Meets (scope.met part)) :
    (scope.outlinePart creation part).Meets (scope.metPart creation part) := by
  unfold outlinePart metPart
  cases scope.anonymous? creation part with
  | some body => exact fun _ => rfl
  | none => exact meets

theorem meets_outlineParts {scope : Scope} (creation : Option Tree) {parts : List Tree}
    (each : ∀ part ∈ parts, (scope.outline part).Meets (scope.met part)) :
    (scope.outlineParts creation parts).Meets (scope.metParts creation parts) := by
  induction parts with
  | nil => exact .pure []
  | cons part parts induction =>
      obtain ⟨first, rest⟩ := List.forall_mem_cons.mp each
      rw [outlineParts, metParts_cons]
      exact (meets_outlinePart creation first).bind fun nodes =>
        (induction rest).map (nodes ++ ·)

theorem meets_outlineBody {scope : Scope} {trees : List Tree}
    (each : ∀ tree ∈ trees, (scope.outline tree).Meets (scope.met tree)) :
    (scope.outlineBody trees).Meets (scope.metBody trees) := by
  induction trees with
  | nil => exact .pure []
  | cons tree trees induction =>
      obtain ⟨first, rest⟩ := List.forall_mem_cons.mp each
      rw [outlineBody, metBody]
      split
      · exact first
      · exact induction rest

/-- What the outlining of a tree leaves behind does not depend on what had been met before. -/
theorem meets_outline (scope : Scope) (tree : Tree) :
    (scope.outline tree).Meets (scope.met tree) := by
  induction tree using Tree.induction generalizing scope with
  | step tree induction =>
      rw [outline_eq, met_eq]
      cases scope.opening tree with
      | leaf node => exact .pure _
      | type node inside => exact (Outlining.Meets.afresh _).map _
      | method node inside locals =>
          have body := meets_outlineBody fun child member => induction child member inside
          exact (body.withLocals locals).map _
      | plain node =>
          have parts := meets_outlineParts tree.creation? fun child member =>
            induction child member scope
          intro progress
          rw [Progress.after_append, ← parts]
          change (Prod.snd ((match node progress.locals with
            | some node => _
            | none => _ : Outlining (List Node)).run _)) = _
          cases node progress.locals <;> rfl

end Scope

end CodeGraph.Java
