import CodeGraph.Proofs.Session.Atomicity
import CodeGraph.Proofs.Statement.Effects

/-!
# How long variables denote what they denote

A variable keeps the cells that it was bound to, and a cell that was emptied is filled again.
Where no clause makes anything after a clause that deletes, what a variable denotes at its use
has been there ever since it was bound.  Otherwise a variable can come to denote what was made
after its own node was deleted through another variable.
-/

namespace CodeGraph

/-! ## What the check says of a variable -/

namespace BoundNode

variable {text name : String} {node : BoundNode} {bound after : VariableSorts}

theorem find?_of_check (checked : node.check text bound = .ok after)
    (different : ¬node.Binds name) : after.find? name = bound.find? name := by
  rcases check_eq_ok checked with ⟨_, _, _, _, _, rfl⟩ | ⟨label, labelled, -, follows⟩
  · rfl
  · cases named : node.name with
    | none =>
        rw [named] at follows
        rw [follows]
    | some other =>
        rw [named] at follows
        have elsewhere : other ≠ name := by
          rintro rfl
          exact different ⟨named, by rw [labelled]; rfl⟩
        rw [follows]
        dsimp only
        rw [OrderedMap.find?_insert, if_neg elsewhere]

theorem sorts_of_binds (checked : node.check text bound = .ok after)
    (binds : node.Binds name) : bound.find? name = none ∧ (after.find? name).isSome = true := by
  obtain ⟨named, labelled⟩ := binds
  rcases check_eq_ok checked with ⟨_, _, _, unlabelled, _, _⟩ | ⟨label, -, unbound, follows⟩
  · rw [unlabelled] at labelled
    cases labelled
  · rw [named] at unbound follows
    rw [follows]
    exact ⟨unbound, by simp⟩

theorem bound_of_refers (checked : node.check text bound = .ok after)
    (refers : node.Refers name) : (bound.find? name).isSome = true := by
  obtain ⟨named, unlabelled⟩ := refers
  rcases check_eq_ok checked with ⟨other, same, sort, _, _, _⟩ | ⟨label, labelled, _, _⟩
  · rw [named] at same
    cases same
    rw [sort]
    rfl
  · rw [unlabelled] at labelled
    cases labelled

/-- The check of a pattern forgets no variable. -/
theorem bound_of_check (checked : node.check text bound = .ok after)
    (found : (bound.find? name).isSome = true) : (after.find? name).isSome = true := by
  by_cases binds : node.Binds name
  · exact (sorts_of_binds checked binds).2
  · rw [find?_of_check checked binds]
    exact found

theorem unbound_of_check (checked : node.check text bound = .ok after)
    (missing : after.find? name = none) : bound.find? name = none := by
  rw [← Option.not_isSome_iff_eq_none]
  intro found
  have still := bound_of_check checked found
  rw [missing] at still
  cases still

end BoundNode

namespace BoundClause

variable {text name : String} {first : BoundClause} {bound after : VariableSorts}

/-- A variable to which a clause binds what it makes has been unbound. -/
theorem sorts_of_binds (checked : first.check text bound = .ok after) (makes : first.Makes)
    (binds : first.Binds name) : bound.find? name = none ∧ (after.find? name).isSome = true := by
  cases first with
  | node making pattern => exact BoundNode.sorts_of_binds checked binds
  | path making source relation target =>
      obtain ⟨afterSource, sourceChecked, rest⟩ := exists_of_bind_eq_ok checked
      obtain ⟨afterTarget, targetChecked, related⟩ := exists_of_bind_eq_ok rest
      have later : (afterTarget.find? name).isSome = true → (after.find? name).isSome = true := by
        intro found
        split at related
        next => exact (Except.ok.inj related) ▸ found
        next other named =>
          split at related
          next => cases related
          next missing =>
            cases related
            rw [OrderedMap.find?_insert]
            split
            · rfl
            · exact found
      rcases binds with inSource | inTarget | named
      · obtain ⟨unbound, found⟩ := BoundNode.sorts_of_binds sourceChecked inSource
        exact ⟨unbound, later (BoundNode.bound_of_check targetChecked found)⟩
      · obtain ⟨unbound, found⟩ := BoundNode.sorts_of_binds targetChecked inTarget
        exact ⟨BoundNode.unbound_of_check sourceChecked unbound, later found⟩
      · rw [named] at related
        dsimp only at related
        split at related
        next => cases related
        next missing =>
          cases related
          refine ⟨?_, by simp⟩
          exact BoundNode.unbound_of_check sourceChecked
            (BoundNode.unbound_of_check targetChecked missing)
  | select patterns => cases makes
  | set changed properties => cases makes
  | delete names detach => cases makes

theorem bound_of_checkDeleted {names : List String}
    (checked : checkDeleted text names bound = .ok after) (member : name ∈ names) :
    (bound.find? name).isSome = true := by
  induction names generalizing bound with
  | nil => cases member
  | cons other names induction =>
      rw [checkDeleted] at checked
      split at checked
      next => cases checked
      next sort sorted =>
        rcases List.mem_cons.mp member with rfl | later
        · rw [sorted]
          rfl
        · have found := induction checked later
          rw [OrderedMap.find?_erase] at found
          split at found
          · cases found
          · exact found

theorem bound_of_uses (checked : first.check text bound = .ok after)
    (uses : first.Uses name) : (bound.find? name).isSome = true := by
  cases first with
  | node making pattern => exact BoundNode.bound_of_refers checked uses
  | path making source relation target =>
      obtain ⟨afterSource, sourceChecked, rest⟩ := exists_of_bind_eq_ok checked
      obtain ⟨afterTarget, targetChecked, -⟩ := exists_of_bind_eq_ok rest
      rcases uses with sourceRefers | ⟨targetRefers, elsewhere⟩
      · exact BoundNode.bound_of_refers sourceChecked sourceRefers
      · have found := BoundNode.bound_of_refers targetChecked targetRefers
        rw [BoundNode.find?_of_check sourceChecked elsewhere] at found
        exact found
  | select patterns => cases uses
  | set changed properties =>
      cases uses
      rw [check] at checked
      split at checked
      next => cases checked
      next sort sorted =>
        rw [sorted]
        rfl
  | delete names detach => exact bound_of_checkDeleted checked uses

end BoundClause

namespace Running

variable {start final run after : Execution} {list early late : List BoundClause}
  {entity : Entity} {name : String}

theorem agrees_clause {text : String} {first : BoundClause} {bound sorts : VariableSorts}
    (checked : first.check text bound = .ok sorts)
    (agrees : Agrees (fun _ => True) bound run.meanings)
    (ran : (clause first).run.run run = (.ok true, after)) :
    Agrees (fun _ => True) sorts after.meanings := by
  have ends : Ends (clause first) run
      (fun goesOn reached => goesOn = true → Agrees (fun _ => True) sorts reached.meanings)
      (LateFailure (fun _ => True) True) :=
    ends_clause (fun _ _ => trivial) (fun _ => trivial) checked agrees
  exact ends.of_ok ran rfl

/-- What a clause binds is there when the clause has been run. -/
theorem isFresh_of_binds {text : String} {first : BoundClause} {bound sorts : VariableSorts}
    (checked : first.check text bound = .ok sorts)
    (agrees : Agrees (fun _ => True) bound run.meanings)
    (ran : (clause first).run.run run = (.ok true, after)) (binds : first.Binds name) :
    IsFresh after name := by
  by_cases makes : first.Makes
  · obtain ⟨unbound, found⟩ := BoundClause.sorts_of_binds checked makes binds
    have before : run.meanings.find? name = none := agrees.find?_eq_none unbound
    have nothing : after.meanings.find? name ≠ none :=
      (agrees_clause checked agrees ran).find?_ne_none found
    rcases (effect_of_run ran).meanings name with same | missing | ⟨-, fresh⟩
    · exact absurd (same.trans before) nothing
    · exact absurd missing nothing
    · exact fresh
  · cases first with
    | node making pattern => exact absurd trivial makes
    | path making source relation target => exact absurd trivial makes
    | select patterns =>
        obtain ⟨pattern, member, named⟩ := binds
        obtain ⟨-, -, fresh⟩ := (ends_select_made patterns run fun _ _ => True).of_ok ran
        exact fresh rfl pattern member name named
    | set changed properties => cases binds
    | delete names detach => cases binds

/-- The state after clauses that all go on, if they do. -/
def through : List BoundClause → Execution → Option Execution
  | [], run => some run
  | first :: rest, run =>
      match (clause first).run.run run with
      | (.ok true, next) => through rest next
      | _ => none

theorem through_cons {first : BoundClause} {rest : List BoundClause} :
    through (first :: rest) start = some final ↔
      ∃ next, (clause first).run.run start = (.ok true, next) ∧ through rest next = some final := by
  rw [through]
  constructor
  · intro ran
    split at ran
    next next ended => exact ⟨next, ended, ran⟩
    next => cases ran
  · rintro ⟨next, ended, ran⟩
    rw [ended]
    exact ran

theorem through_append :
    through (early ++ late) start = (through early start).bind (through late) := by
  induction early generalizing start with
  | nil => rfl
  | cons first early induction =>
      rw [List.cons_append, through, through]
      split
      · exact induction
      · rfl

/-- Running clauses goes through the states before each of them. -/
theorem run_clauses_append (ran : through early start = some final) (late : List BoundClause) :
    (clauses (early ++ late)).run.run start = (clauses late).run.run final := by
  induction early generalizing start with
  | nil =>
      cases ran
      rfl
  | cons first early induction =>
      obtain ⟨next, ended, later⟩ := through_cons.mp ran
      rw [List.cons_append, clauses, run_bind, ended]
      exact induction later

/-- What the effect of each clause keeps holds at the end. -/
theorem through_induction {motive : Execution → Prop} (ran : through list start = some final)
    (step : ∀ clause ∈ list, ∀ run next, Effect clause run next → motive run → motive next)
    (holds : motive start) : motive final := by
  induction list generalizing start with
  | nil =>
      cases ran
      exact holds
  | cons first rest induction =>
      obtain ⟨here, others⟩ := List.forall_mem_cons.mp step
      obtain ⟨next, ended, later⟩ := through_cons.mp ran
      exact induction later others (here start next (effect_of_run ended) holds)

theorem isLive_through (ran : through list start = some final)
    (keep : ∀ clause ∈ list, ¬clause.Deletes) (live : start.store.IsLive entity) :
    final.store.IsLive entity := by
  apply through_induction (motive := fun run => run.store.IsLive entity) ran _ live
  intro clause member run next effect before
  exact effect.stays (keep clause member) entity before

theorem wasLive_through (ran : through list start = some final)
    (keep : ∀ clause ∈ list, ¬clause.Makes) (live : final.store.IsLive entity) :
    start.store.IsLive entity := by
  apply Classical.byContradiction
  intro dead
  apply through_induction (motive := fun run => ¬run.store.IsLive entity) ran _ dead live
  intro clause member run next effect before after
  exact before (effect.wasLive (keep clause member) entity after)

theorem meanings_through (ran : through list start = some final)
    (keep : ∀ clause ∈ list, ¬clause.Binds name) :
    final.meanings.find? name = start.meanings.find? name ∨ final.meanings.find? name = none := by
  apply through_induction (motive := fun run => run.meanings.find? name =
    start.meanings.find? name ∨ run.meanings.find? name = none) ran _ (.inl rfl)
  intro clause member run next effect before
  rcases effect.meanings name with same | unbound | ⟨binds, -⟩
  · rw [same]
    exact before
  · exact .inr unbound
  · exact absurd binds (keep clause member)

/-- The check of the clauses follows their run. -/
theorem agrees_through {text : String} {bound sorts : VariableSorts}
    (ran : through list start = some final)
    (checked : list.foldlM (BoundClause.check text) bound = .ok sorts)
    (agrees : Agrees (fun _ => True) bound start.meanings) :
    Agrees (fun _ => True) sorts final.meanings := by
  induction list generalizing start bound with
  | nil =>
      cases ran
      cases checked
      exact agrees
  | cons first rest induction =>
      rw [List.foldlM_cons] at checked
      obtain ⟨between, firstChecked, restChecked⟩ := exists_of_bind_eq_ok checked
      obtain ⟨next, ended, later⟩ := through_cons.mp ran
      exact induction later restChecked (agrees_clause firstChecked agrees ended)

theorem isFresh_through {text : String} {bound sorts : VariableSorts}
    {before : List BoundClause} {binding : BoundClause}
    (ran : through (before ++ [binding]) start = some final)
    (checked : (before ++ [binding]).foldlM (BoundClause.check text) bound = .ok sorts)
    (agrees : Agrees (fun _ => True) bound start.meanings) (binds : binding.Binds name) :
    IsFresh final name := by
  rw [List.foldlM_append] at checked
  obtain ⟨between, beforeChecked, rest⟩ := exists_of_bind_eq_ok checked
  rw [List.foldlM_cons] at rest
  obtain ⟨after, bindingChecked, -⟩ := exists_of_bind_eq_ok rest
  rw [through_append] at ran
  obtain ⟨middle, first, last⟩ := Option.bind_eq_some_iff.mp ran
  obtain ⟨next, ended, nothing⟩ := through_cons.mp last
  cases nothing
  exact isFresh_of_binds bindingChecked (agrees_through first beforeChecked agrees) ended binds

/-- What is there at both ends has been there throughout, if nothing is made after a
deletion. -/
theorem lasting_through (ran : through (early ++ late) start = some final)
    (apart : (early ++ late).Pairwise fun earlier later => earlier.Deletes → ¬later.Makes)
    (liveStart : start.store.IsLive entity) (liveFinal : final.store.IsLive entity)
    (reaches : through early start = some run) : run.store.IsLive entity := by
  rw [through_append, reaches] at ran
  by_cases deletes : ∃ clause ∈ early, clause.Deletes
  · obtain ⟨earlier, member, deletes⟩ := deletes
    apply wasLive_through ran _ liveFinal
    intro later laterMember
    exact (List.pairwise_append.mp apart).2.2 earlier member later laterMember deletes
  · apply isLive_through reaches _ liveStart
    intro clause member clauseDeletes
    exact deletes ⟨clause, member, clauseDeletes⟩

/-- A use of a variable makes nothing of what it denotes come back. -/
theorem isLive_of_use {use : BoundClause} (effect : Effect use run after)
    (ran : through list start = some run)
    (apart : (list ++ [use]).Pairwise fun earlier later => earlier.Deletes → ¬later.Makes)
    (liveStart : start.store.IsLive entity)
    (live : run.store.IsLive entity ∨ after.store.IsLive entity) : run.store.IsLive entity := by
  rcases live with before | later
  · exact before
  · by_cases makes : use.Makes
    · apply isLive_through ran _ liveStart
      intro clause member deletes
      exact (List.pairwise_append.mp apart).2.2 clause member use List.mem_cons_self deletes makes
    · exact effect.wasLive makes entity later

/-- Where nothing is made after a deletion, between the binding of a variable and its use, all
that the variable denotes and that is there at the use has been there ever since.  The use
changes only what the variables it uses denote, and joins only such nodes. -/
theorem lasting_of_prepare {statement : Statement} {prepared : BoundStatement}
    (passed : statement.prepare = .ok prepared) {store : Store}
    {before between rest : List BoundClause} {binding use : BoundClause} {name : String}
    (split : prepared.clauses = (before ++ [binding]) ++ (between ++ use :: rest))
    (binds : binding.Binds name) (kept : ∀ clause ∈ between, ¬clause.Binds name)
    (uses : use.Uses name)
    (apart : (between ++ [use]).Pairwise fun earlier later => earlier.Deletes → ¬later.Makes)
    {bound used : Execution}
    (first : through (before ++ [binding]) { text := prepared.text, store } = some bound)
    (second : through between bound = some used) :
    ∃ meaning outcome after,
      bound.meanings.find? name = some meaning ∧ used.meanings.find? name = some meaning ∧
      (clauses prepared.clauses).run.run { text := prepared.text, store } =
        (clauses (use :: rest)).run.run used ∧
      (clause use).run.run used = (outcome, after) ∧
      (∀ entity ∈ meaning.entities, bound.store.IsLive entity ∧
        (used.store.IsLive entity ∨ after.store.IsLive entity →
          ∀ early late reached, between = early ++ late → through early bound = some reached →
            reached.store.IsLive entity)) ∧
      (∀ entity content, used.store.entity? entity = some content →
        after.store.entity? entity = some content ∨ use.Affects used entity) ∧
      (∀ making source relation target, use = .path making source relation target →
        Joins source target used after) := by
  obtain ⟨sorts, checked⟩ := Statement.check_of_prepare passed
  rw [BoundStatement.check, split, List.foldlM_append] at checked
  obtain ⟨sortsBound, boundChecked, checked⟩ := exists_of_bind_eq_ok checked
  rw [List.foldlM_append] at checked
  obtain ⟨sortsUsed, betweenChecked, checked⟩ := exists_of_bind_eq_ok checked
  rw [List.foldlM_cons] at checked
  obtain ⟨sortsAfter, useChecked, -⟩ := exists_of_bind_eq_ok checked
  obtain ⟨meaning, found, live⟩ := isFresh_through first boundChecked Agrees.empty binds
  have agreesBound := agrees_through first boundChecked Agrees.empty
  have agreesUsed := agrees_through second betweenChecked agreesBound
  have still : used.meanings.find? name = some meaning := by
    rcases meanings_through second kept with same | unbound
    · exact same.trans found
    · exact absurd unbound
        (agreesUsed.find?_ne_none (BoundClause.bound_of_uses useChecked uses))
  have effect := effect_clause use used
  refine ⟨meaning, _, _, found, still, ?_, rfl, ?_, effect.frame, ?_⟩
  · rw [split, run_clauses_append first, run_clauses_append second]
  · intro entity member
    refine ⟨live entity member, ?_⟩
    intro liveUsed early late reached splits reaches
    have stillLive := isLive_of_use effect second apart (live entity member) liveUsed
    rw [splits] at second apart
    exact lasting_through second (List.pairwise_append.mp apart).1 (live entity member)
      stillLive reaches
  · rintro making source relation target rfl
    exact joins_clause making source target relation used

/-- One of two nodes is deleted before a property of the other one is set. -/
theorem lasting_of_prepare_other :
    let typed (name : String) : BoundNode := ⟨some name, some "T", OrderedMap.empty⟩
    let statement : Statement :=
      { text := "CREATE (a:T) CREATE (b:T) DETACH DELETE a SET b.x = 1" }
    let creating := [BoundClause.node .create (typed "a"), .node .create (typed "b")]
    let deleting := BoundClause.delete ["a"] true
    let setting := BoundClause.set "b" (OrderedMap.ofList [("x", .int 1)])
    let prepared : BoundStatement := ⟨statement.text, creating ++ [deleting, setting]⟩
    let start : Execution := { text := statement.text, store := Store.empty }
    statement.prepare = .ok prepared ∧
    ∃ bound used, through creating start = some bound ∧ through [deleting] bound = some used ∧
      used.meanings.find? "b" = some (.nodes [1]) ∧
      ∀ early late reached, [deleting] = early ++ late → through early bound = some reached →
        reached.store.IsLive (.node 1) := by
  intro typed statement creating deleting setting prepared start
  have states : ((through creating start).bind (through [deleting])).map
      (fun run => (run.meanings.find? "b", (run.store.node? 1).isSome)) =
        some (some (.nodes [1]), true) := by
    decide +kernel +revert
  have passed : statement.prepare = .ok prepared := by
    unfold Statement.prepare Clause.ofText
    simp only [statement, String.reduceToList]
    rfl
  obtain ⟨used, ran, same⟩ := Option.map_eq_some_iff.mp states
  obtain ⟨bound, first, second⟩ := Option.bind_eq_some_iff.mp ran
  obtain ⟨found, live⟩ := Prod.mk.inj same
  have split : prepared.clauses =
      ([.node .create (typed "a")] ++ [.node .create (typed "b")]) ++ ([deleting] ++ [setting]) :=
    rfl
  have kept : ∀ clause ∈ [deleting], ¬clause.Binds "b" := by
    intro clause member
    rw [List.mem_singleton.mp member]
    exact id
  have apart : ([deleting] ++ [setting]).Pairwise fun earlier later =>
      earlier.Deletes → ¬later.Makes := by
    rw [List.singleton_append, List.pairwise_pair]
    exact fun _ => id
  obtain ⟨meaning, outcome, after, -, still, -, -, lasting, -⟩ :=
    lasting_of_prepare passed split ⟨rfl, rfl⟩ kept rfl apart first second
  obtain rfl : meaning = .nodes [1] := Option.some.inj (still.symm.trans found)
  have member : Entity.node 1 ∈ (Meaning.nodes [1]).entities := List.mem_cons_self
  refine ⟨passed, bound, used, first, second, found, ?_⟩
  exact (lasting _ member).2 (.inl ((Store.isLive_node 1).mpr live))

/-- Two variables denote one node.  It is deleted through the first, and the second then
reaches the node that is created in its place. -/
theorem not_lasting_alias :
    let typed (name : String) : BoundNode := ⟨some name, some "T", OrderedMap.empty⟩
    let statement : Statement :=
      { text := "MERGE (a:T) MERGE (b:T) DETACH DELETE a CREATE (c:T) SET b.x = 1" }
    let merging := [BoundClause.node .merge (typed "a"), .node .merge (typed "b")]
    let deleting := BoundClause.delete ["a"] true
    let creating := BoundClause.node .create (typed "c")
    let changed : Properties := OrderedMap.ofList [("x", .int 1)]
    let prepared : BoundStatement :=
      ⟨statement.text, merging ++ [deleting, creating, .set "b" changed]⟩
    let start : Execution := { text := statement.text, store := Store.empty }
    statement.prepare = .ok prepared ∧
    (through merging start).map (fun run => (run.meanings.find? "b", run.store.node? 0)) =
      some (some (.nodes [0]), some ⟨"T", OrderedMap.empty⟩) ∧
    (through (merging ++ [deleting]) start).map (fun run =>
      (run.meanings.find? "b", run.store.node? 0)) = some (some (.nodes [0]), none) ∧
    (through (merging ++ [deleting, creating]) start).map (fun run =>
      (run.meanings.find? "b", run.store.node? 0)) =
        some (some (.nodes [0]), some ⟨"T", OrderedMap.empty⟩) ∧
    (prepared.run Store.empty).2.node? 0 = some ⟨"T", changed⟩ := by
  intro typed statement merging deleting creating changed prepared start
  have passed : statement.prepare = .ok prepared := by
    unfold Statement.prepare Clause.ofText
    simp only [statement, String.reduceToList]
    rfl
  refine ⟨passed, ?_⟩
  clear passed
  decide +kernel +revert

end Running

end CodeGraph
