import CodeGraph.Proofs.Statement.Checked
import CodeGraph.Proofs.Store.Entities

/-!
# What a clause touches

A clause that makes nodes and relationships changes nothing that is there, one that sets
properties changes what its variable denotes, and one that deletes takes away what its
variables denote and the relationships at these nodes.  Whatever a clause binds a variable to
is there when the clause has been run.
-/

namespace CodeGraph

/-- What a variable denotes. -/
def Meaning.entities : Meaning → List Entity
  | .nodes cells => cells.map .node
  | .edge cell => [.edge cell]

@[simp] theorem Meaning.node_mem_entities {cells : List Nat} {cell : Nat} :
    Entity.node cell ∈ (Meaning.nodes cells).entities ↔ cell ∈ cells := by
  simp [Meaning.entities]

/-- Is the pattern a variable that is bound to a node the clause makes? -/
def BoundNode.Binds (node : BoundNode) (name : String) : Prop :=
  node.name = some name ∧ node.label.isSome = true

/-- Is the pattern a variable that has been bound before? -/
def BoundNode.Refers (node : BoundNode) (name : String) : Prop :=
  node.name = some name ∧ node.label = none

namespace BoundClause

/-- Does the clause bind the variable? -/
def Binds (name : String) : BoundClause → Prop
  | node _ pattern => pattern.Binds name
  | path _ source relation target =>
      source.Binds name ∨ target.Binds name ∨ relation.name = some name
  | select patterns => ∃ pattern ∈ patterns, pattern.name = some name
  | set _ _ | delete _ _ => False

/-- Does the clause use the variable as bound before? -/
def Uses (name : String) : BoundClause → Prop
  | node _ pattern => pattern.Refers name
  | path _ source _ target =>
      source.Refers name ∨ (target.Refers name ∧ ¬source.Binds name)
  | select _ => False
  | set changed _ => changed = name
  | delete names _ => name ∈ names

/-- May the clause create nodes or relationships? -/
def Makes : BoundClause → Prop
  | node _ _ | path _ _ _ _ => True
  | select _ | set _ _ | delete _ _ => False

/-- May the clause delete nodes or relationships? -/
def Deletes : BoundClause → Prop
  | delete _ _ => True
  | node _ _ | path _ _ _ _ | select _ | set _ _ => False

/-- May the clause change the node or the relationship?  A variable that it uses denotes it,
or the clause deletes a node at which the relationship is. -/
def Affects (clause : BoundClause) (run : Execution) (entity : Entity) : Prop :=
  ∃ name meaning, clause.Uses name ∧ run.meanings.find? name = some meaning ∧
    (entity ∈ meaning.entities ∨
      clause.Deletes ∧ ∃ cell, Entity.node cell ∈ meaning.entities ∧
        run.store.Attached cell entity)

end BoundClause

namespace Running

variable {run start : Execution}

/-- The variable denotes only what is there. -/
def IsFresh (run : Execution) (name : String) : Prop :=
  ∃ meaning, run.meanings.find? name = some meaning ∧
    ∀ entity ∈ meaning.entities, run.store.IsLive entity

/-! ## Making nodes and relationships -/

/-- Nothing is gone or changed, but some of the variables denote something else that is
there. -/
structure Made (binds : String → Prop) (start run : Execution) : Prop where
  grown : start.store.Extends run.store
  meanings : ∀ name, run.meanings.find? name = start.meanings.find? name ∨
    (binds name ∧ IsFresh run name)

theorem IsFresh.of_grown {after : Execution} {name : String} (fresh : IsFresh run name)
    (grown : run.store.Extends after.store)
    (same : after.meanings.find? name = run.meanings.find? name) : IsFresh after name := by
  obtain ⟨meaning, found, live⟩ := fresh
  refine ⟨meaning, same.trans found, ?_⟩
  intro entity member
  exact grown.isLive (live entity member)

namespace Made

variable {binds : String → Prop}

theorem refl (run : Execution) : Made binds run run :=
  ⟨Store.Extends.refl run.store, fun _ => .inl rfl⟩

theorem trans {first second third : Execution} (made : Made binds first second)
    (later : Made binds second third) : Made binds first third := by
  refine ⟨made.grown.trans later.grown, ?_⟩
  intro name
  rcases later.meanings name with same | fresh
  · rcases made.meanings name with kept | ⟨allowed, fresh⟩
    · exact .inl (same.trans kept)
    · exact .inr ⟨allowed, fresh.of_grown later.grown same⟩
  · exact .inr fresh

theorem weaken {more : String → Prop} (made : Made binds start run)
    (wider : ∀ name, binds name → more name) : Made more start run :=
  ⟨made.grown, fun name => (made.meanings name).imp_right (And.imp_left (wider name))⟩

theorem change (made : Made binds start run) (operation : Store → Nat × Store)
    (kind : Nat → Entity) (grown : run.store.Extends (operation run.store).2)
    (live : (operation run.store).2.IsLive (kind (operation run.store).1))
    {bad : Failure → Execution → Prop} :
    Ends (Running.change operation) run
      (fun cell after => Made binds start after ∧ after.store.IsLive (kind cell)) bad := by
  refine ⟨⟨made.grown.trans grown, ?_⟩, live⟩
  intro name
  rcases made.meanings name with same | ⟨bound, fresh⟩
  · exact .inl same
  · exact .inr ⟨bound, fresh.of_grown grown rfl⟩

theorem bindName (made : Made binds start run) {name : Option String} {meaning : Meaning}
    (binding : ∀ bound, name = some bound → binds bound)
    (live : ∀ entity ∈ meaning.entities, run.store.IsLive entity)
    {bad : Failure → Execution → Prop} :
    Ends (Running.bindName name meaning) run (fun _ after => Made binds start after) bad := by
  cases name with
  | none => exact made
  | some bound =>
      refine ⟨made.grown, ?_⟩
      intro other
      have inserted := OrderedMap.find?_insert run.meanings bound other meaning
      by_cases same : bound = other
      · rw [if_pos same] at inserted
        exact .inr ⟨same ▸ binding bound rfl, meaning, inserted, live⟩
      · rw [if_neg same] at inserted
        rcases made.meanings other with kept | ⟨allowed, denoted, found, entities⟩
        · exact .inl (inserted.trans kept)
        · exact .inr ⟨allowed, denoted, inserted.trans found, entities⟩

theorem count (made : Made binds start run) {entity : Entity}
    (live : run.store.IsLive entity) (counts : ChangeCounts) {bad : Failure → Execution → Prop} :
    Ends (Running.count counts) run
      (fun _ after => Made binds start after ∧ after.store.IsLive entity) bad :=
  ⟨⟨made.grown, made.meanings⟩, live⟩

theorem makeNode (made : Made binds start run) (making : Making) {pattern : BoundNode}
    (binding : ∀ name, pattern.Binds name → binds name) :
    EndsIn (Running.makeNode making pattern) run (Made binds start) := by
  unfold Running.makeNode
  cases labelled : pattern.label with
  | none => exact made
  | some label =>
      refine Ends.bind (?_ : Ends _ run
        (fun cell after => Made binds start after ∧ after.store.IsLive (.node cell))
        fun _ after => Made binds start after) ?_
      · cases making with
        | create =>
            exact made.change (fun store => store.createNode label pattern.properties) .node
              (Store.extends_createNode _ _ _) (Store.isLive_createNode _ _ _)
        | merge =>
            exact made.change (fun store => store.mergeNode label pattern.properties) .node
              (Store.extends_mergeNode _ _ _) (Store.isLive_mergeNode _ _ _)
      · rintro cell reached ⟨made, live⟩
        refine (made.count live { nodes := 1 }).bind ?_
        rintro _ reached ⟨made, live⟩
        have bound : EndsIn (Running.bindName pattern.name (.nodes [cell])) reached
            (Made binds start) :=
          made.bindName (fun name named => binding name ⟨named, by rw [labelled]; rfl⟩)
            (by simpa [Meaning.entities] using live)
        exact bound.bind fun _ _ made => made

theorem node (made : Made binds start run) (making : Making) {pattern : BoundNode}
    (binding : ∀ name, pattern.Binds name → binds name) :
    EndsIn (Running.node making pattern) run (Made binds start) := by
  cases bound : pattern.name.bind run.meanings.find? with
  | some meaning =>
      obtain ⟨outcome, ended, -⟩ := run_node_of_bound making bound
      unfold EndsIn Ends
      rw [ended]
      cases outcome <;> exact made
  | none =>
      have makes := made.makeNode making binding
      unfold EndsIn Ends at makes ⊢
      rw [run_node_of_unbound making bound]
      exact makes

theorem path (made : Made binds start run) (making : Making) {source target : BoundNode}
    {relation : BoundRelation}
    (binding : ∀ name, (BoundClause.path making source relation target).Binds name → binds name) :
    EndsIn (Running.path making source relation target) run (Made binds start) := by
  refine (made.node making fun name binds => binding name (.inl binds)).bind ?_
  intro first reached made
  refine (made.node making fun name binds => binding name (.inr (.inl binds))).bind ?_
  intro second reached made
  refine Ends.bind (?_ : Ends _ reached
    (fun cell after => Made binds start after ∧ after.store.IsLive (.edge cell))
    fun _ after => Made binds start after) ?_
  · cases making with
    | create =>
        exact made.change
          (fun store => store.createEdge first second relation.type relation.properties) .edge
          (Store.extends_createEdge _ _ _ _ _) (Store.isLive_createEdge _ _ _ _ _)
    | merge =>
        exact made.change
          (fun store => store.mergeEdge first second relation.type relation.properties) .edge
          (Store.extends_mergeEdge _ _ _ _ _) (Store.isLive_mergeEdge _ _ _ _ _)
  · rintro cell reached ⟨made, live⟩
    refine (made.count live { relationships := 1 }).bind ?_
    rintro _ reached ⟨made, live⟩
    exact made.bindName (fun name named => binding name (.inr (.inr named)))
      (by simpa [Meaning.entities] using live)

end Made

/-- A new relationship joins what the variables of its ends denote. -/
def Joins (source target : BoundNode) (run after : Execution) : Prop :=
  ∀ place edge, after.store.edges.get? place = some edge →
    run.store.edges.get? place = some edge ∨
      ∀ name meaning, run.meanings.find? name = some meaning →
        (source.name = some name → Entity.node edge.source ∈ meaning.entities) ∧
        (target.name = some name → Entity.node edge.target ∈ meaning.entities)

theorem ends_makeNode_edges (making : Making) (pattern : BoundNode) (run : Execution) :
    EndsIn (makeNode making pattern) run fun after => after.store.edges = run.store.edges := by
  unfold makeNode
  cases labelled : pattern.label with
  | none => exact rfl
  | some label =>
      cases making with
      | create => cases pattern.name <;> exact rfl
      | merge =>
          have kept := Store.edges_mergeNode run.store label pattern.properties
          cases pattern.name <;> exact kept

/-- The node of a pattern is what its variable denotes if that is bound, and no other
variable that is bound comes to denote something else. -/
theorem ends_node_denotes (making : Making) (pattern : BoundNode) (run : Execution) :
    Ends (node making pattern) run
      (fun cell after => after.store.edges = run.store.edges ∧
        ∀ name meaning, run.meanings.find? name = some meaning →
          after.meanings.find? name = some meaning ∧
          (pattern.name = some name → Entity.node cell ∈ meaning.entities))
      (fun _ after => after.store.edges = run.store.edges) := by
  cases bound : pattern.name.bind run.meanings.find? with
  | some denoted =>
      obtain ⟨outcome, ended, answer⟩ := run_node_of_bound making bound
      unfold Ends
      rw [ended]
      cases outcome with
      | error failure => exact rfl
      | ok cell =>
          refine ⟨rfl, ?_⟩
          intro name meaning found
          refine ⟨found, ?_⟩
          intro named
          rw [named, Option.bind_some, found] at bound
          cases bound
          rw [answer cell rfl]
          exact Meaning.node_mem_entities.mpr List.mem_cons_self
  | none =>
      have edges := ends_makeNode_edges making pattern run
      have made : EndsIn (makeNode making pattern) run (Made (pattern.name = some ·) run) :=
        (Made.refl run).makeNode making fun _ binds => binds.1
      unfold EndsIn Ends at edges made
      unfold Ends
      rw [run_node_of_unbound making bound]
      rcases ended : (makeNode making pattern).run.run run with ⟨outcome, after⟩
      rw [ended] at edges made
      cases outcome with
      | error failure => exact edges
      | ok cell =>
          refine ⟨edges, ?_⟩
          intro name meaning found
          have different : pattern.name ≠ some name := by
            intro named
            rw [named, Option.bind_some, found] at bound
            cases bound
          rcases made.meanings name with same | ⟨named, -⟩
          · exact ⟨same.trans found, fun named => absurd named different⟩
          · exact absurd named different

theorem ends_path_joins (making : Making) (source target : BoundNode)
    (relation : BoundRelation) (run : Execution) :
    EndsIn (path making source relation target) run (Joins source target run) := by
  have unchanged : ∀ after : Execution, after.store.edges = run.store.edges →
      Joins source target run after := by
    intro after same place edge found
    rw [same] at found
    exact .inl found
  refine ((ends_node_denotes making source run).imp (fun _ _ => id)
    fun _ after => unchanged after).bind ?_
  rintro first reached ⟨sameFirst, firstDenotes⟩
  refine ((ends_node_denotes making target reached).imp (fun _ _ => id)
    fun _ after same => unchanged after (same.trans sameFirst)).bind ?_
  rintro second reached ⟨sameSecond, secondDenotes⟩
  have joined : ∀ place (edge : StoredEdge),
      reached.store.edges.get? place = some edge ∨ edge.source = first ∧ edge.target = second →
      run.store.edges.get? place = some edge ∨
        ∀ name meaning, run.meanings.find? name = some meaning →
          (source.name = some name → Entity.node edge.source ∈ meaning.entities) ∧
          (target.name = some name → Entity.node edge.target ∈ meaning.entities) := by
    rintro place edge (kept | ⟨rfl, rfl⟩)
    · rw [sameSecond, sameFirst] at kept
      exact .inl kept
    · right
      intro name meaning found
      obtain ⟨still, starts⟩ := firstDenotes name meaning found
      exact ⟨starts, (secondDenotes name meaning still).2⟩
  refine Ends.bind (?_ : EndsIn _ reached (Joins source target run)) ?_
  · cases making with
    | create => exact fun place edge found => joined place edge (Store.of_get?_createEdge found)
    | merge => exact fun place edge found => joined place edge (Store.of_get?_mergeEdge found)
  · intro cell after joins
    cases relation.name <;> exact joins

/-! ## Other clauses -/

/-- Selecting leaves the store alone, and after a selection that goes on all its variables
denote what is there. -/
theorem ends_select_made (patterns : List BoundNode) (run : Execution)
    (bad : Failure → Execution → Prop) :
    Ends (select patterns) run
      (fun goesOn after => after.store = run.store ∧
        Made (fun name => ∃ pattern ∈ patterns, pattern.name = some name) run after ∧
        (goesOn = true → ∀ pattern ∈ patterns, ∀ name, pattern.name = some name →
          IsFresh after name)) bad := by
  induction patterns generalizing run with
  | nil => exact ⟨rfl, Made.refl run, by simp⟩
  | cons pattern patterns induction =>
      refine Ends.bind (ends_get run) ?_
      rintro _ run ⟨rfl, rfl⟩
      dsimp only
      split
      next => exact ⟨rfl, Made.refl run, nofun⟩
      next =>
        let found := run.store.matchNodes pattern.label pattern.properties
        let binds (name : String) : Prop := ∃ other ∈ pattern :: patterns, other.name = some name
        have live : ∀ entity ∈ (Meaning.nodes found).entities, run.store.IsLive entity := by
          intro entity member
          obtain ⟨cell, matching, rfl⟩ := List.mem_map.mp member
          obtain ⟨node, stored, -⟩ := Store.mem_matchNodes.mp matching
          simp [stored]
        have bound : Ends (bindName pattern.name (.nodes found)) run
            (fun _ after => after.store = run.store ∧ Made binds run after ∧
              ∀ name, pattern.name = some name → IsFresh after name) bad := by
          cases named : pattern.name with
          | none => exact ⟨rfl, Made.refl run, nofun⟩
          | some name =>
              have binding : ∀ other, some name = some other → binds other := by
                intro other same
                exact ⟨pattern, List.mem_cons_self, named.trans same⟩
              have made : Ends (bindName (some name) (.nodes found)) run
                  (fun _ after => Made binds run after) bad :=
                (Made.refl run).bindName binding live
              refine ⟨rfl, made, ?_⟩
              intro other same
              cases same
              exact ⟨.nodes found, OrderedMap.find?_insert_self _ _ _, live⟩
        refine bound.bind ?_
        rintro _ reached ⟨same, made, fresh⟩
        refine (induction reached).mono ?_
        rintro goesOn after ⟨sameLater, madeLater, freshLater⟩
        have widened : Made binds reached after := madeLater.weaken fun name bound =>
          bound.imp fun other => And.imp_left (List.mem_cons_of_mem pattern)
        refine ⟨sameLater.trans same, made.trans widened, ?_⟩
        intro goes other member name named
        rcases List.mem_cons.mp member with rfl | later
        · rcases madeLater.meanings name with kept | ⟨-, freshAfter⟩
          · exact (fresh name named).of_grown madeLater.grown kept
          · exact freshAfter
        · exact freshLater goes other later name named

theorem ends_set_rewrites (name : String) (properties : Properties) (run : Execution) :
    let acted (entity : Entity) := ∃ meaning, run.meanings.find? name = some meaning ∧
      entity ∈ meaning.entities
    EndsIn (set name properties) run fun after =>
      after.meanings = run.meanings ∧ Store.Rewrites acted run.store after.store := by
  intro acted
  refine Ends.bind (ends_get run) ?_
  rintro _ run ⟨rfl, rfl⟩
  cases found : run.meanings.find? name with
  | none => exact ⟨rfl, Store.Rewrites.refl run.store⟩
  | some meaning =>
      cases meaning with
      | nodes cells =>
          refine ⟨rfl, Store.Rewrites.setNodes run.store properties ?_⟩
          intro cell member
          exact ⟨_, found, Meaning.node_mem_entities.mpr member⟩
      | edge cell =>
          refine ⟨rfl, Store.Rewrites.setEdge run.store properties ?_⟩
          exact ⟨_, found, List.mem_cons_self⟩

/-- Some of the things acted on are gone, and some of the variables are unbound. -/
structure Unmade (acted : Entity → Prop) (start run : Execution) : Prop where
  removes : Store.Removes acted start.store run.store
  meanings : ∀ name, run.meanings.find? name = start.meanings.find? name ∨
    run.meanings.find? name = none

namespace Unmade

variable {acted : Entity → Prop}

theorem deleteNodes (unmade : Unmade acted start run) (detach : Bool) {cells : List Nat}
    (allowed : ∀ cell ∈ cells, acted (.node cell) ∧
      ∀ entity, start.store.Attached cell entity → acted entity) :
    EndsIn (Running.deleteNodes detach cells) run (Unmade acted start) := by
  induction cells generalizing run with
  | nil => exact unmade
  | cons cell cells induction =>
      obtain ⟨⟨here, attached⟩, later⟩ := List.forall_mem_cons.mp allowed
      refine Ends.bind (ends_get run) ?_
      rintro _ run ⟨rfl, rfl⟩
      cases deleted : run.store.deleteNode cell detach with
      | error failure => exact unmade
      | ok store =>
          have removes : Store.Removes acted run.store store := by
            apply Store.Removes.deleteNode here _ deleted
            intro entity stillAttached
            exact attached entity (unmade.removes.attached stillAttached)
          have counted : EndsIn (do modify fun run => { run with store }
                                    count { deleted := 1 }) run (Unmade acted start) :=
            ⟨unmade.removes.trans removes, unmade.meanings⟩
          exact counted.bind fun _ _ unmade => induction unmade later

/-- What the variables denoted at the start goes, with the relationships at these nodes. -/
theorem delete (unmade : Unmade acted start run) (detach : Bool) {names : List String}
    (allowed : ∀ name ∈ names, ∀ meaning, start.meanings.find? name = some meaning →
      ∀ entity ∈ meaning.entities, acted entity ∧
        ∀ cell, entity = .node cell → ∀ other, start.store.Attached cell other → acted other) :
    EndsIn (Running.delete detach names) run (Unmade acted start) := by
  induction names generalizing run with
  | nil => exact unmade
  | cons name names induction =>
      obtain ⟨here, later⟩ := List.forall_mem_cons.mp allowed
      refine Ends.bind (ends_get run) ?_
      rintro _ run ⟨rfl, rfl⟩
      have unbinds : EndsIn (modify fun run =>
            { run with meanings := run.meanings.erase name } : Running Unit) run
          (Unmade acted start) := by
        refine ⟨unmade.removes, ?_⟩
        intro other
        have erased := OrderedMap.find?_erase run.meanings name other
        split at erased
        · exact .inr erased
        · exact (unmade.meanings other).imp erased.trans erased.trans
      refine unbinds.bind ?_
      intro _ reached unmadeErased
      cases found : run.meanings.find? name with
      | none => exact unmadeErased
      | some meaning =>
          have denoted : start.meanings.find? name = some meaning := by
            rcases unmade.meanings name with same | unbound
            · exact same.symm.trans found
            · rw [found] at unbound
              cases unbound
          have acts := here meaning denoted
          cases meaning with
          | nodes cells =>
              have deletes := unmadeErased.deleteNodes detach fun cell member =>
                have acted := acts (.node cell) (Meaning.node_mem_entities.mpr member)
                ⟨acted.1, acted.2 cell rfl⟩
              exact deletes.bind fun _ _ unmade => induction unmade later
          | edge cell =>
              have removes : EndsIn (changeStore fun store => store.deleteEdge cell) reached
                  (Unmade acted start) := by
                have gone := Store.Removes.deleteEdge reached.store
                  (acts (.edge cell) List.mem_cons_self).1
                exact ⟨unmadeErased.removes.trans gone, unmadeErased.meanings⟩
              have counts : ∀ run, Unmade acted start run →
                  EndsIn (count { deleted := 1 }) run (Unmade acted start) :=
                fun _ unmade => ⟨unmade.removes, unmade.meanings⟩
              refine removes.bind ?_
              intro _ after unmadeAfter
              exact (counts after unmadeAfter).bind fun _ _ unmade => induction unmade later

end Unmade

/-! ## Every clause -/

/-- What a clause can do to the store and to the variables. -/
structure Effect (first : BoundClause) (run after : Execution) : Prop where
  frame : ∀ entity content, run.store.entity? entity = some content →
    after.store.entity? entity = some content ∨ first.Affects run entity
  stays : ¬first.Deletes → ∀ entity, run.store.IsLive entity → after.store.IsLive entity
  wasLive : ¬first.Makes → ∀ entity, after.store.IsLive entity → run.store.IsLive entity
  meanings : ∀ name, after.meanings.find? name = run.meanings.find? name ∨
    after.meanings.find? name = none ∨ (first.Binds name ∧ IsFresh after name)

namespace Effect

variable {first : BoundClause} {after : Execution}

theorem of_made (made : Made (first.Binds ·) run after) (makes : first.Makes) :
    Effect first run after where
  frame := fun entity content live => .inl (made.grown entity content live)
  stays := fun _ _ live => made.grown.isLive live
  wasLive := fun still => absurd makes still
  meanings := fun name => (made.meanings name).imp_right .inr

theorem of_selected {binds : String → Prop} (same : after.store = run.store)
    (made : Made binds run after) (bound : ∀ name, binds name → first.Binds name) :
    Effect first run after where
  frame := fun entity content live => .inl (made.grown entity content live)
  stays := fun _ _ live => made.grown.isLive live
  wasLive := fun _ _ live => same ▸ live
  meanings := fun name => (made.meanings name).imp_right fun fresh =>
    .inr (fresh.imp_left (bound name))

theorem of_rewrites {acted : Entity → Prop} (meanings : after.meanings = run.meanings)
    (rewrites : Store.Rewrites acted run.store after.store)
    (affects : ∀ entity, acted entity → first.Affects run entity) : Effect first run after where
  frame := by
    intro entity content live
    by_cases act : acted entity
    · exact .inr (affects entity act)
    · exact .inl ((rewrites.others entity act).trans live)
  stays := fun _ entity live => (rewrites.isLive entity).mpr live
  wasLive := fun _ entity live => (rewrites.isLive entity).mp live
  meanings := fun name => .inl (by rw [meanings])

theorem of_unmade {acted : Entity → Prop} (unmade : Unmade acted run after)
    (deletes : first.Deletes) (affects : ∀ entity, acted entity → first.Affects run entity) :
    Effect first run after where
  frame := by
    intro entity content live
    rcases unmade.removes entity with same | ⟨act, -⟩
    · exact .inl (same.trans live)
    · exact .inr (affects entity act)
  stays := fun kept => absurd deletes kept
  wasLive := fun _ _ live => unmade.removes.isLive live
  meanings := fun name => (unmade.meanings name).imp_right .inl

end Effect

theorem joins_clause (making : Making) (source target : BoundNode) (relation : BoundRelation)
    (run : Execution) :
    Joins source target run
      ((clause (.path making source relation target)).run.run run).2 :=
  ((ends_path_joins making source target relation run).map true).reached

theorem effect_clause (first : BoundClause) (run : Execution) :
    Effect first run ((clause first).run.run run).2 := by
  apply EndsIn.reached
  cases first with
  | node making pattern =>
      have makes : EndsIn (node making pattern) run (Effect (.node making pattern) run) :=
        ((Made.refl run).node making fun _ binds => binds).imp fun _ made => .of_made made trivial
      exact makes.map true
  | path making source relation target =>
      have makes : EndsIn (path making source relation target) run
          (Effect (.path making source relation target) run) :=
        ((Made.refl run).path making fun _ binds => binds).imp fun _ made => .of_made made trivial
      exact makes.map true
  | select patterns =>
      refine (ends_select_made patterns run _).mono ?_
      rintro goesOn after ⟨same, made, -⟩
      exact .of_selected same made fun _ => id
  | set name properties =>
      have affects : ∀ entity, (∃ meaning, run.meanings.find? name = some meaning ∧
          entity ∈ meaning.entities) → (BoundClause.set name properties).Affects run entity := by
        rintro entity ⟨meaning, found, member⟩
        exact ⟨name, meaning, rfl, found, .inl member⟩
      have sets : EndsIn (set name properties) run (Effect (.set name properties) run) :=
        (ends_set_rewrites name properties run).imp fun _ ended =>
          .of_rewrites ended.1 ended.2 affects
      exact sets.map true
  | delete names detach =>
      let acted (entity : Entity) := (BoundClause.delete names detach).Affects run entity
      have start : Unmade acted run run := ⟨Store.Removes.refl run.store, fun _ => .inl rfl⟩
      have unmakes : EndsIn (delete detach names) run (Unmade acted run) := by
        apply start.delete
        intro name member meaning found entity denoted
        refine ⟨⟨name, meaning, member, found, .inl denoted⟩, ?_⟩
        rintro cell rfl other attached
        exact ⟨name, meaning, member, found, .inr ⟨trivial, cell, denoted, attached⟩⟩
      have deletes : EndsIn (delete detach names) run (Effect (.delete names detach) run) :=
        unmakes.imp fun _ unmade => .of_unmade unmade trivial fun _ => id
      exact deletes.map true

theorem effect_of_run {first : BoundClause} {after : Execution} {outcome : Except Failure Bool}
    (ran : (clause first).run.run run = (outcome, after)) : Effect first run after := by
  have effect := effect_clause first run
  rw [ran] at effect
  exact effect

end Running

end CodeGraph
