import CodeGraph.Proofs.Java.Ways
import CodeGraph.Proofs.OrderedMap
import Mathlib.Data.List.Flatten

/-!
# Calls on variables

A variable that a method is called on is looked up among the parameters and local variables that
have been met in the innermost method or type, the last one first, and then among the fields of
the types around.  Only variables of a type with a name are taken in, and they stay when their
block ends.  So this is the variable in scope, with its type, if all that are in scope have a
type with a name and no others of its name have been met.
-/

namespace CodeGraph.Java

/-! ## Variables in scope -/

/-- Do brackets stand in the tree itself, outside of its parts?  As in `int x[]`. -/
def Tree.hasBrackets (chars : Array Char) (tree : Tree) : Bool :=
  (List.range tree.span.stop).any fun place =>
    tree.span.start ≤ place && chars[place]? == some '[' && tree.children.all fun child =>
      place < child.span.start || child.span.stop ≤ place

/-- The declarations of variables that stay in scope after a statement: the statement itself, or
those in a group of statements after a label. -/
def Tree.lasting (tree : Tree) : List Tree :=
  match tree.construct with
  | .localVariableDeclaration => [tree]
  | .other =>
      match tree.children.filter (·.construct ≠ .comment) with
      | first :: rest =>
          if first.construct = .other then
            rest.filter (·.construct = .localVariableDeclaration)
          else []
      | [] => []
  | _ => []

theorem Tree.lasting_sublist (tree : Tree) (grouped : tree.construct = .other) :
    tree.lasting.Sublist (tree.children.filter (·.construct = .localVariableDeclaration)) := by
  have kept : (tree.children.filter (·.construct ≠ .comment)).Sublist tree.children :=
    List.filter_sublist
  rw [lasting, grouped]
  dsimp only
  split
  next first rest cut =>
    rw [cut] at kept
    split
    · exact ((List.sublist_cons_self first rest).trans kept).filter _
    · exact List.nil_sublist _
  next => exact List.nil_sublist _

/-- Variables in the order of their declarations, with the names of their types.  A variable of a
basic type, of an array type, or declared with `var`, has none. -/
abbrev Variables := List (String × Option String)

/-- The variables of a type with a name. -/
def Variables.typed (entries : Variables) : List (String × String) :=
  entries.filterMap fun (name, type) => type.map (name, ·)

namespace Source

/-- The variable that a tree declares, where it has the type with the name. -/
def declarator? (source : Source) (type : Option String) (tree : Tree) :
    Option (String × Option String) :=
  (source.childText? tree .name).map fun name =>
    (name, if tree.hasBrackets source.chars then none else type)

def declarators (source : Source) (type : Option String) (parts : List Tree) : Variables :=
  (parts.filter (·.construct = .variableDeclarator)).filterMap (source.declarator? type)

def declaredVariables (source : Source) (tree : Tree) : Variables :=
  source.declarators (source.childType? tree) tree.children

/-- The parameters of a method.  The last one may stand for several arguments in an array. -/
def parameterVariables (source : Source) (method : Tree) : Variables :=
  match method.child? .parameters with
  | none => []
  | some parameters => parameters.children.flatMap fun parameter =>
      if parameter.construct = .parameter then
        (source.declarator? (source.childType? parameter) parameter).toList
      else source.declarators none parameter.children

def fieldVariables (source : Source) (body : Tree) : Variables :=
  (body.members.filter (·.construct = .fieldDeclaration)).flatMap source.declaredVariables

/-- What a tree itself brings into the scope of the part of it that comes after others: the
variables that are declared so far, or the one that a loop runs over elements with. -/
def ownVariables (source : Source) (parent : Tree) (before : List Tree) : Variables :=
  match parent.construct with
  | .localVariableDeclaration =>
      source.declarators (source.childType? parent) (parent.children.take (before.length + 1))
  | .forEach =>
      if before.length + 1 = parent.children.length then
        (source.declarator? (source.childType? parent) parent).toList
      else []
  | _ => []

/-- The parameters and local variables in scope of the innermost method, or the innermost type,
that a way leads into. -/
def localScope (source : Source) : List Step → Variables
  | .part parent before :: way =>
      localScope source way ++ source.ownVariables parent before ++
        before.flatMap (·.lasting.flatMap source.declaredVariables)
  | .top before :: _ => before.flatMap (·.lasting.flatMap source.declaredVariables)
  | .body method :: _ => source.parameterVariables method
  | .member _ _ _ :: _ | .anonymous _ _ _ :: _ | [] => []

/-- The fields in scope, and the parameters and local variables around the innermost type. -/
def outerScope (source : Source) : List Step → Variables
  | .member _ body _ :: way | .anonymous _ body _ :: way =>
      outerScope source way ++ source.localScope way ++ source.fieldVariables body
  | .part _ _ :: way | .top _ :: way | .body _ :: way => outerScope source way
  | [] => []

end Source

/-! ## Variables that count -/

/-- The parameters and local variables with named types that have been met in the innermost
method or type, also those of blocks that have ended. -/
def metVariables (start : Scope) : List Step → List (String × String)
  | [] => []
  | .part parent before :: way =>
      let scope := (Standing.along start way).scope
      metVariables start way ++
        (scope.declaredLocals parent ++ (scope.metParts parent.creation? before).locals)
  | .body method :: _ => start.source.parameters method
  | .top before :: way =>
      ((Standing.along start (.top before :: way)).scope.metParts none before).locals
  | .member type body before :: way =>
      ((Standing.along start (.member type body before :: way)).scope.metParts none before).locals
  | .anonymous created body before :: way =>
      ((Standing.along start (.anonymous created body before :: way)).scope.metParts none
        before).locals

/-- The fields of the types around, and the variables that have been met. -/
def countedVariables (start : Scope) (way : List Step) : List (String × String) :=
  (enclosing start way).reverse.flatMap
      (fun type => start.source.allMemberFields type.body.children) ++
    metVariables start way

theorem Standing.find?_within (scope : Scope) (before : List Tree) (name : String) :
    (within scope before).progress.locals.find? name =
      Entries.find? name (scope.metParts none before).locals.reverse :=
  (OrderedMap.find?_foldl_insert _ OrderedMap.empty name).trans Option.or_none

section

variable {start : Scope} {root tree : Tree} {way : List Step}

/-- Of the variables of one name that have been met, the last one is found. -/
theorem Leads.find?_locals (leads : Leads start root way tree) (bare : start.types = [])
    (name : String) :
    (Standing.along start way).progress.locals.find? name =
      Entries.find? name (metVariables start way).reverse := by
  induction leads with
  | top => exact Standing.find?_within ..
  | @part way parent tree before after node leads _ opens split induction =>
      let scope := (Standing.along start way).scope
      let met := scope.declaredLocals parent ++ (scope.metParts parent.creation? before).locals
      have found : (Standing.along start (.part parent before :: way)).progress.locals.find? name =
          (Entries.find? name met.reverse).or
            ((Standing.along start way).progress.locals.find? name) :=
        OrderedMap.find?_foldl_insert met _ name
      rw [found, induction]
      exact (Entries.find?_reverse_append name (metVariables start way) met).symm
  | @body way method tree node inside locals leads opens isChild induction =>
      obtain ⟨owner, given, -, -, -, -, rfl⟩ := Scope.of_opening_method opens
      rw [Standing.along, Standing.enter, opens, metVariables, ← (leads.holds bare).sameSource]
      exact OrderedMap.find?_ofList _ name
  | @member way type body tree before after node inside leads opens found split induction =>
      rw [metVariables, Standing.along, Standing.enter, opens]
      exact Standing.find?_within ..
  | @anonymous way parent created body tree earlier before after outer leads found =>
      obtain ⟨-, -, current⟩ := Scope.currentType_of_anonymous? found
      have around : (Standing.along start (.part parent earlier :: way)).scope.currentType =
        some outer := current
      rw [metVariables, Standing.along_anonymous around]
      exact Standing.find?_within ..

end

theorem Scope.Holds.find?_fields {scope : Scope} {source : Source} {types : List Enclosing}
    (holds : scope.Holds source types) (name : String) :
    scope.types.findSome? (·.fields.find? name) =
      Entries.find? name (types.reverse.flatMap
        fun type => source.allMemberFields type.body.children).reverse := by
  have same := congrArg (List.findSome? (·.2.find? name)) holds.sameTypes
  rw [List.findSome?_map, List.findSome?_map] at same
  refine Eq.trans same ?_
  clear same holds
  induction types with
  | nil => rfl
  | cons type types induction =>
      rw [List.findSome?_cons, List.reverse_cons, List.flatMap_append, List.flatMap_singleton,
        Entries.find?_reverse_append, ← induction]
      have own : (source.fields type.body).find? name =
          Entries.find? name (source.allMemberFields type.body.children).reverse :=
        OrderedMap.find?_ofList _ name
      dsimp only [Function.comp_apply]
      rw [own]
      cases Entries.find? name (source.allMemberFields type.body.children).reverse <;> rfl

theorem Leads.variableType? {start : Scope} {root tree : Tree} {way : List Step}
    (leads : Leads start root way tree) (bare : start.types = []) (name : String) :
    (Standing.along start way).scope.variableType? (Standing.along start way).progress.locals
        name =
      Entries.find? name (countedVariables start way).reverse := by
  rw [countedVariables, Entries.find?_reverse_append, ← leads.find?_locals bare,
    ← (leads.holds bare).find?_fields, Scope.variableType?]
  cases (Standing.along start way).progress.locals.find? name <;> rfl

/-! ## Variables in scope that count -/

namespace Variables

@[simp] theorem typed_append (first second : Variables) :
    typed (first ++ second) = first.typed ++ second.typed := List.filterMap_append

theorem typed_flatMap {α : Type} (entries : α → Variables) (items : List α) :
    typed (items.flatMap entries) = items.flatMap fun item => (entries item).typed :=
  List.filterMap_flatMap

end Variables

namespace Source

variable {source : Source}

/-- The variable that a tree names, if it is given a type with a name. -/
def typedVariable? (source : Source) (type : Option String) (tree : Tree) :
    Option (String × String) :=
  type.bind fun type => (source.childText? tree .name).map fun name => (name, type)

theorem typed_declarator (source : Source) (type : Option String) (tree : Tree) :
    (Variables.typed (source.declarator? type tree).toList).Sublist
      (source.typedVariable? type tree).toList := by
  unfold declarator? typedVariable? Variables.typed
  cases source.childText? tree .name with
  | none => cases type <;> exact .slnil
  | some name =>
      cases type with
      | none =>
          rw [ite_self]
          exact .slnil
      | some type =>
          cases tree.hasBrackets source.chars
          · exact List.Sublist.refl [(name, type)]
          · exact List.nil_sublist [(name, type)]

theorem typed_declarators (source : Source) (type : Option String) (parts : List Tree) :
    (source.declarators type parts).typed.Sublist
      ((parts.filter (·.construct = .variableDeclarator)).filterMap
        (source.typedVariable? type)) := by
  rw [declarators, List.filterMap_eq_flatMap_toList, Variables.typed_flatMap,
    List.filterMap_eq_flatMap_toList]
  exact List.Sublist.flatMap_right _ fun child _ => typed_declarator source type child

theorem typed_declarators_none (parts : List Tree) :
    (source.declarators none parts).typed = [] := by
  have nothing := typed_declarators source none parts
  have empty : (parts.filter (·.construct = .variableDeclarator)).filterMap
      (source.typedVariable? none) = [] :=
    List.filterMap_eq_nil_iff.mpr fun _ _ => rfl
  rwa [empty, List.sublist_nil] at nothing

/-- Of the parts of a declaration, those that have a type with a name are among its variables. -/
theorem typed_declarators_variableTypes {tree : Tree} {parts : List Tree}
    (among : parts.Sublist tree.children) :
    (source.declarators (source.childType? tree) parts).typed.Sublist
      (source.variableTypes tree) := by
  unfold variableTypes
  cases source.childType? tree with
  | none => rw [typed_declarators_none]
  | some type => exact (typed_declarators _ _ _).trans ((among.filter _).filterMap _)

theorem typed_ownVariables (scope : Scope) (parent : Tree) (before : List Tree) :
    (scope.source.ownVariables parent before).typed.Sublist (scope.declaredLocals parent) := by
  unfold ownVariables Scope.declaredLocals
  cases parent.construct
  case localVariableDeclaration => exact typed_declarators_variableTypes (List.take_sublist _ _)
  case forEach =>
    dsimp only
    split
    · refine (typed_declarator _ _ _).trans ?_
      unfold typedVariable?
      cases scope.source.childType? parent <;> cases scope.source.childText? parent .name <;>
        exact List.Sublist.refl _
    · exact List.nil_sublist _
  all_goals exact .slnil

theorem typed_parameterVariables (method : Tree) :
    (source.parameterVariables method).typed.Sublist (source.parameters method) := by
  unfold parameterVariables parameters
  cases method.child? .parameters with
  | none => exact .slnil
  | some tree =>
      dsimp only
      induction tree.children with
      | nil => exact .slnil
      | cons parameter rest induction =>
          rw [List.flatMap_cons, Variables.typed_append]
          by_cases plain : parameter.construct = .parameter
          · rw [if_pos plain, List.filter_cons_of_pos (by simpa using plain), List.filterMap_cons]
            refine ((typed_declarator source _ parameter).append induction).trans ?_
            unfold typedVariable?
            cases source.childType? parameter <;> cases source.childText? parameter .name <;>
              exact List.Sublist.refl _
          · rw [if_neg plain, List.filter_cons_of_neg (by simpa using plain),
              typed_declarators_none]
            exact induction

theorem typed_declaredFields (source : Source) (trees : List Tree) :
    (Variables.typed ((trees.filter (·.construct = .fieldDeclaration)).flatMap
      source.declaredVariables)).Sublist (source.allMemberFields trees) := by
  induction trees with
  | nil => exact .slnil
  | cons tree trees induction =>
      rcases tree with ⟨construct, span, role, children⟩
      rw [allMemberFields, memberFields.eq_def]
      dsimp only
      by_cases field : construct = .fieldDeclaration
      · subst field
        rw [List.filter_cons_of_pos (by simp), List.flatMap_cons, Variables.typed_append]
        exact (typed_declarators_variableTypes (List.Sublist.refl _)).append induction
      · rw [List.filter_cons_of_neg (by simpa using field)]
        exact induction.trans (List.sublist_append_right _ _)

theorem typed_fieldVariables (body : Tree) :
    (source.fieldVariables body).typed.Sublist (source.allMemberFields body.children) := by
  unfold fieldVariables Tree.members
  induction body.children with
  | nil => exact .slnil
  | cons tree trees induction =>
      rw [List.flatMap_cons, List.filter_append, List.flatMap_append, Variables.typed_append,
        allMemberFields]
      refine List.Sublist.append ?_ induction
      split
      next apart =>
        rcases tree with ⟨construct, span, role, children⟩
        cases apart
        rw [memberFields]
        exact typed_declaredFields source children
      next =>
        have single := typed_declaredFields source [tree]
        rwa [allMemberFields, allMemberFields, List.append_nil] at single

end Source

namespace Scope

variable {scope : Scope}

theorem typed_declaration {tree : Tree} (declares : tree.construct = .localVariableDeclaration) :
    (scope.source.declaredVariables tree).typed.Sublist (scope.met tree).locals := by
  have opens : scope.opening tree = .plain fun _ => scope.plainNode? tree := by
    unfold opening
    rw [declares]
  have own : scope.declaredLocals tree = scope.source.variableTypes tree := by
    unfold declaredLocals
    rw [declares]
  rw [met_eq, opens]
  dsimp only
  rw [Met.locals_append, own]
  exact (Source.typed_declarators_variableTypes (List.Sublist.refl _)).trans
    (List.sublist_append_left _ _)

theorem locals_metParts_none (trees : List Tree) :
    (scope.metParts none trees).locals = trees.flatMap fun tree => (scope.met tree).locals := by
  induction trees with
  | nil => rfl
  | cons tree trees induction =>
      rw [metParts_cons, Met.locals_append, induction]
      rfl

theorem typed_lasting (tree : Tree) :
    (Variables.typed (tree.lasting.flatMap scope.source.declaredVariables)).Sublist
      (scope.met tree).locals := by
  by_cases grouped : tree.construct = .other
  · have opens : scope.opening tree = .plain fun _ => scope.plainNode? tree := by
      unfold opening
      rw [grouped]
    have creates : tree.creation? = none := by
      rw [Tree.creation?, grouped]
      rfl
    rw [met_eq, opens]
    dsimp only
    rw [Met.locals_append, creates, locals_metParts_none, Variables.typed_flatMap]
    have among := tree.lasting_sublist grouped
    refine .trans ?_ (((among.trans List.filter_sublist).flatMap _).trans
      (List.sublist_append_right _ _))
    refine List.Sublist.flatMap_right _ fun child member => ?_
    exact typed_declaration (by simpa using (List.mem_filter.mp (among.subset member)).2)
  · unfold Tree.lasting
    split
    next declares =>
      rw [List.flatMap_singleton]
      exact typed_declaration declares
    next here => exact absurd here grouped
    next => exact List.nil_sublist _

theorem typed_lasting_metParts (creation : Option Tree) (before : List Tree) :
    (Variables.typed (before.flatMap (·.lasting.flatMap scope.source.declaredVariables))).Sublist
      (scope.metParts creation before).locals := by
  induction before with
  | nil => exact .slnil
  | cons tree before induction =>
      rw [List.flatMap_cons, Variables.typed_append, metParts_cons, Met.locals_append]
      refine List.Sublist.append ?_ induction
      unfold metPart
      cases found : scope.anonymous? creation tree with
      | none => exact typed_lasting tree
      | some body =>
          have isBody := (currentType_of_anonymous? found).2.1
          rw [Tree.lasting, isBody]
          exact .slnil

end Scope

theorem Leads.typed_localScope {start : Scope} {root tree : Tree} {way : List Step}
    (leads : Leads start root way tree) (bare : start.types = []) :
    (start.source.localScope way).typed.Sublist (metVariables start way) := by
  induction leads with
  | top => exact start.typed_lasting_metParts none _
  | @part way parent tree before after node leads _ opens split induction =>
      have same := (leads.holds bare).sameSource
      let scope := (Standing.along start way).scope
      have own := Source.typed_ownVariables scope parent before
      have earlier := scope.typed_lasting_metParts parent.creation? before
      rw [same] at own earlier
      rw [Source.localScope, metVariables, Variables.typed_append, Variables.typed_append,
        List.append_assoc]
      exact induction.append (own.append earlier)
  | body => exact Source.typed_parameterVariables _
  | member => exact List.nil_sublist _
  | anonymous => exact List.nil_sublist _

/-- The fields in scope, and the parameters and local variables in scope of the innermost method,
count if they have a type with a name. -/
theorem Leads.typed_sublist_counted {start : Scope} {root tree : Tree} {way : List Step}
    (leads : Leads start root way tree) (bare : start.types = []) :
    (Variables.typed ((enclosing start way).reverse.flatMap
        (fun type => start.source.fieldVariables type.body) ++
      start.source.localScope way)).Sublist (countedVariables start way) := by
  rw [Variables.typed_append, Variables.typed_flatMap]
  refine List.Sublist.append ?_ (leads.typed_localScope bare)
  exact List.Sublist.flatMap_right _ fun type _ => Source.typed_fieldVariables type.body

/-! ## Looking up typed variables -/

namespace Variables

variable {name type : String}

theorem find?_typed {entries : Variables} (found : Entries.find? name entries = some (some type)) :
    Entries.find? name entries.typed = some type := by
  induction entries with
  | nil => cases found
  | cons entry entries induction =>
      obtain ⟨other, given⟩ := entry
      by_cases same : other = name
      · have here : given = some type := by simpa [Entries.find?, same] using found
        simp [typed, here, Entries.find?, same]
      · have later := induction (by simpa [Entries.find?, same] using found)
        cases given with
        | none => exact later
        | some here => simpa [typed, Entries.find?, same] using later

theorem find?_typed_eq_none_iff {entries : Variables} :
    Entries.find? name entries.typed = none ↔
      ∀ entry ∈ entries, entry.1 = name → entry.2 = none := by
  rw [Entries.find?_eq_none_iff, Entries.keys, typed, List.map_filterMap]
  constructor
  · rintro absent ⟨other, given⟩ member rfl
    refine Option.eq_none_iff_forall_ne_some.mpr fun type same => absent ?_
    exact List.mem_filterMap.mpr ⟨_, member, by simp_all⟩
  · intro untyped member
    obtain ⟨⟨other, given⟩, inside, same⟩ := List.mem_filterMap.mp member
    cases given with
    | none => cases same
    | some type =>
        cases same
        cases untyped _ inside rfl

theorem typed_reverse (entries : Variables) : typed entries.reverse = entries.typed.reverse :=
  List.filterMap_reverse

end Variables

theorem Scope.receiverType?_of_identifier {object : Tree}
    (identifier : object.construct = .identifier) (scope : Scope) (locals : OrderedMap String) :
    let name := scope.source.text object
    scope.receiverType? locals object =
      (scope.variableType? locals name).or
        (if isCapitalized name.toList then some (scope.source.names.resolveSimple name)
        else none) := by
  intro name
  rcases object with ⟨construct, span, role, children⟩
  cases identifier
  unfold receiverType?
  dsimp only
  cases scope.variableType? locals name <;> rfl

/-- Below the unit that stands for a source, its outline has the nodes of its places.  At each
place where a method is called on an identifier, the call goes to the type of the last variable of
that name that counts; if there is none, a capitalized identifier is the name of a type.

The fields in scope count, and so do the parameters and local variables in scope of the innermost
method, if they have a type with a name.  If all variables of the name that count have the type of
one of these, the call goes to that type.  If they are just those in scope, the call goes to the
type of the innermost variable of the name if this has a type with a name, and it goes nowhere if
and only if none has. -/
theorem outline_calls_on_variables (file : String) (source : Source) (root : Tree) :
    let start : Scope := { source, file }
    (outline file source root).nodes =
        (outline file source root).alone ::
          ((places start root).filterMap (·.node? start)).map Node.alone ∧
      ∀ place ∈ places start root, place.tree.construct = .methodInvocation →
        ∀ method, source.childText? place.tree .name = some method →
        ∀ object, place.tree.child? .object = some object → object.construct = .identifier →
          let name := source.text object
          let counted := countedVariables start place.way
          let fields := (enclosing start place.way).reverse.flatMap fun type =>
            source.fieldVariables type.body
          let declared := fields ++ source.localScope place.way
          let inScope := source.outerScope place.way ++ source.localScope place.way
          ∃ node owner, place.node? start = some node ∧ node.kind = .methodInvocation ∧
            node.name = some method ∧ node.invocationTarget = owner.map (Scope.member method) ∧
            owner = (Entries.find? name counted.reverse).or
              (if isCapitalized name.toList then some (source.names.resolveSimple name)
              else none) ∧
            (Variables.typed declared).Sublist counted ∧
            (∀ type, (name, some type) ∈ declared →
              (∀ entry ∈ counted, entry.1 = name → entry.2 = type) → owner = some type) ∧
            (counted.filter (·.1 = name) = (Variables.typed inScope).filter (·.1 = name) →
              (∀ type, Entries.find? name inScope.reverse = some (some type) →
                owner = some type) ∧
              (owner = none ↔ isCapitalized name.toList = false ∧
                ∀ entry ∈ inScope, entry.1 = name → entry.2 = none)) := by
  intro start
  refine ⟨nodes_outline file source root, ?_⟩
  intro place isPlace call method named object isObject identifier name counted fields declared
    inScope
  have leads := leads_of_mem_places isPlace
  have holds := leads.holds rfl
  let standing := Standing.along start place.way
  let owner := standing.scope.receiverType? standing.progress.locals object
  have here : place.node? start = some
      (standing.scope.callNode .methodInvocation place.tree method method owner) := by
    rw [holds.node?_of_call call named, Scope.methodCall, isObject]
    dsimp only
    rw [identifier]
  have lookedUp : owner = (Entries.find? name counted.reverse).or
      (if isCapitalized name.toList then some (source.names.resolveSimple name) else none) := by
    have looked := standing.scope.receiverType?_of_identifier identifier standing.progress.locals
    rw [holds.sameSource] at looked
    rw [← leads.variableType? rfl]
    exact looked
  have sublist : (Variables.typed declared).Sublist counted := leads.typed_sublist_counted rfl
  refine ⟨_, owner, here, rfl, rfl, rfl, lookedUp, sublist, ?_, ?_⟩
  · intro type isDeclared unique
    have counts : (name, type) ∈ counted :=
      sublist.subset (List.mem_filterMap.mpr ⟨_, isDeclared, rfl⟩)
    rw [lookedUp, Entries.find?_of_unique (List.mem_reverse.mpr counts)
      fun entry member => unique entry (List.mem_reverse.mp member)]
    rfl
  · intro same
    have found : Entries.find? name counted.reverse =
        Entries.find? name (Variables.typed inScope.reverse) := by
      rw [Variables.typed_reverse, ← Entries.find?_filter name counted.reverse,
        ← Entries.find?_filter name (Variables.typed inScope).reverse, List.filter_reverse,
        List.filter_reverse, same]
    rw [found] at lookedUp
    refine ⟨fun type innermost => ?_, ?_⟩
    · rw [lookedUp, Variables.find?_typed innermost]
      rfl
    · rw [lookedUp, Option.or_eq_none_iff, Variables.find?_typed_eq_none_iff, and_comm]
      simp

/-- The tree of a class `A{B x;void f(){T x=g();x.m();}}`, where `T` has this length. -/
def Tree.ofShadowedField (length : Nat) : Tree :=
  let leaf (construct : Construct) (start stop : Nat) (role : Role) : Tree :=
    { construct, span := ⟨start, stop, 1⟩, role := some role }
  let arguments (start stop : Nat) : Tree := { construct := .other, span := ⟨start, stop, 1⟩ }
  let place := length + 22
  let field : Tree :=
    { construct := .fieldDeclaration, span := ⟨8, 12, 1⟩
      children :=
        [leaf .typeName 8 9 .type,
          { construct := .variableDeclarator, span := ⟨10, 11, 1⟩
            children := [leaf .identifier 10 11 .name] }] }
  let value : Tree :=
    { construct := .methodInvocation, span := ⟨place + 2, place + 5, 1⟩
      children :=
        [leaf .identifier (place + 2) (place + 3) .name, arguments (place + 3) (place + 5)] }
  let declaration : Tree :=
    { construct := .localVariableDeclaration, span := ⟨21, place + 6, 1⟩
      children :=
        [leaf .typeName 21 (length + 21) .type,
          { construct := .variableDeclarator, span := ⟨place, place + 5, 1⟩
            children := [leaf .identifier place (place + 1) .name, value] }] }
  let call : Tree :=
    { construct := .methodInvocation, span := ⟨place + 6, place + 11, 1⟩
      children :=
        [leaf .identifier (place + 6) (place + 7) .object,
          leaf .identifier (place + 8) (place + 9) .name, arguments (place + 9) (place + 11)] }
  let statement : Tree :=
    { construct := .other, span := ⟨place + 6, place + 12, 1⟩, children := [call] }
  let method : Tree :=
    { construct := .methodDeclaration, span := ⟨12, place + 13, 1⟩
      children :=
        [leaf .other 12 16 .type, leaf .identifier 17 18 .name,
          leaf .parameters 18 20 .parameters,
          { leaf .block 20 (place + 13) .body with children := [declaration, statement] }] }
  let type : Tree :=
    { construct := .classDeclaration, span := ⟨0, place + 14, 1⟩
      children :=
        [leaf .identifier 6 7 .name,
          { leaf .classBody 7 (place + 14) .body with children := [field, method] }] }
  { construct := .program, span := ⟨0, place + 14, 1⟩, children := [type] }

/-- A local variable that has a type with a name hides a field. -/
theorem outline_calls_on_variables_hiding :
    let root := Tree.ofShadowedField 1
    let text := "class A\x7bB x;void f()\x7bC x=g();x.m();\x7d\x7d"
    let source := Source.ofTree text.toList.toArray root
    let start : Scope := { source, file := "A.java" }
    ∃ place ∈ places start root, ∃ node owner, place.node? start = some node ∧
      node.invocationTarget = owner.map (Scope.member "m") ∧ owner = some "C" := by
  intro root text source start
  let place := (places start root).get ⟨15, by decide +kernel⟩
  have isPlace : place ∈ places start root := List.get_mem ..
  have named : source.childText? place.tree .name = some "m" := by decide +kernel
  let object := (place.tree.child? .object).get (by decide +kernel)
  have isObject : place.tree.child? .object = some object := (Option.some_get _).symm
  obtain ⟨node, owner, here, -, -, target, -, -, -, counts⟩ :=
    (outline_calls_on_variables "A.java" source root).2 place isPlace (by decide +kernel) "m" named
      object isObject (by decide +kernel)
  have inScope : (countedVariables start place.way).filter (·.1 = source.text object) =
      (Variables.typed (source.outerScope place.way ++ source.localScope place.way)).filter
        (·.1 = source.text object) := by
    decide +kernel
  have innermost : Entries.find? (source.text object)
      (source.outerScope place.way ++ source.localScope place.way).reverse = some (some "C") := by
    decide +kernel
  exact ⟨place, isPlace, node, owner, here, target, (counts inScope).1 "C" innermost⟩

/-- A local variable declared with `var` does not hide a field: the call should go nowhere, but it
goes to the type of the field. -/
theorem not_outline_calls_on_variables_var :
    let root := Tree.ofShadowedField 3
    let text := "class A\x7bB x;void f()\x7bvar x=g();x.m();\x7d\x7d"
    let source := Source.ofTree text.toList.toArray root
    let start : Scope := { source, file := "A.java" }
    ∃ place ∈ places start root, place.tree.construct = .methodInvocation ∧
      ∃ object, place.tree.child? .object = some object ∧ object.construct = .identifier ∧
        Entries.find? (source.text object)
          (source.outerScope place.way ++ source.localScope place.way).reverse = some none ∧
        (place.node? start).bind (·.invocationTarget) = some "B.m" := by
  intro root text source start
  let place := (places start root).get ⟨15, by decide +kernel⟩
  let object := (place.tree.child? .object).get (by decide +kernel)
  exact ⟨place, List.get_mem .., by decide +kernel, object, (Option.some_get _).symm,
    by decide +kernel, by decide +kernel, by decide +kernel⟩

end CodeGraph.Java
