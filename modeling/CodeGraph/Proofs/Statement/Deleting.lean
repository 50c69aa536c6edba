import Mathlib.Algebra.Order.BigOperators.Group.List
import Mathlib.Algebra.Order.Ring.Nat
import Mathlib.Data.List.Dedup
import CodeGraph.Proofs.Statement.Keeping
import CodeGraph.Proofs.Statement.Lifetime
import CodeGraph.Proofs.Store.Deletion

/-!
# What the count of deletions counts

A deleting clause counts every mention of a node or a relationship.  The count is the number of
things that the clauses delete exactly if no clause mentions a thing twice, or one that is gone
when the clause starts.  A statement with one deleting clause that names one variable always
counts right.
-/

namespace CodeGraph

/-- All that the clause is to delete, in the order in which the variables denote it. -/
def BoundClause.mentions (run : Execution) : BoundClause → List Entity
  | delete names _ => names.flatMap fun name =>
      ((run.meanings.find? name).map Meaning.entities).getD []
  | node _ _ | path _ _ _ _ | select _ | set _ _ => []

theorem BoundClause.mentions_of_not_deletes {first : BoundClause} (kept : ¬first.Deletes)
    (run : Execution) : first.mentions run = [] := by
  cases first with
  | delete names detach => exact absurd trivial kept
  | node | path | select | set => rfl

theorem Store.not_isLive_of_deleteNode {store after : Store} {cell : Nat} {detach : Bool}
    (deleted : store.deleteNode cell detach = .ok after) : ¬after.IsLive (.node cell) := by
  rw [Store.isLive_node, Option.not_isSome_iff_eq_none]
  cases live : store.node? cell with
  | none =>
      simp only [Store.deleteNode, live] at deleted
      cases deleted
      exact live
  | some node =>
      rw [Store.deleteNode_of_node? detach live] at deleted
      split at deleted
      · cases deleted
      · cases deleted
        rw [node?, Arena.get?_erase, if_pos rfl]

namespace Running

variable {run start final after : Execution} {list : List BoundClause} {first : BoundClause}

/-- Each mention is counted, nothing that is mentioned is left, and nothing comes back. -/
structure Deleted (mentioned : List Entity) (start run : Execution) : Prop where
  counted : run.counts.deleted = start.counts.deleted + mentioned.length
  gone : ∀ entity ∈ mentioned, ¬run.store.IsLive entity
  wasLive : ∀ entity, run.store.IsLive entity → start.store.IsLive entity

namespace Deleted

variable {mentioned more : List Entity}

theorem trans (deleted : Deleted mentioned start run) (later : Deleted more run after) :
    Deleted (mentioned ++ more) start after where
  counted := by
    rw [later.counted, deleted.counted, List.length_append, Nat.add_assoc]
  gone := by
    intro entity member live
    rcases List.mem_append.mp member with earlier | last
    · exact deleted.gone entity earlier (later.wasLive entity live)
    · exact later.gone entity last live
  wasLive := fun entity live => deleted.wasLive entity (later.wasLive entity live)

end Deleted

theorem Ends.of_run_eq {α : Type} {action other : Running α} {next : Execution}
    {good : α → Execution → Prop} {bad : Failure → Execution → Prop}
    (same : action.run.run run = other.run.run next) (ends : Ends other next good bad) :
    Ends action run good bad := by
  unfold Ends at ends ⊢
  rw [same]
  exact ends

/-- Whatever its failures are, the step ends well. -/
abbrev Succeeds {α : Type} (action : Running α) (run : Execution)
    (good : α → Execution → Prop) : Prop :=
  Ends action run good fun _ _ => True

theorem deleted_deleteNodes (detach : Bool) (cells : List Nat) (run : Execution) :
    Succeeds (deleteNodes detach cells) run fun _ after =>
      Deleted (cells.map .node) run after ∧ after.meanings = run.meanings := by
  induction cells generalizing run with
  | nil => exact ⟨⟨rfl, nofun, fun _ => id⟩, rfl⟩
  | cons cell cells induction =>
      cases outcome : run.store.deleteNode cell detach with
      | error failure =>
          unfold Succeeds Ends
          rw [run_deleteNodes_of_error outcome]
          trivial
      | ok store =>
          let counts := run.counts.add { deleted := 1 }
          have removes : Store.Removes (fun _ => True) run.store store :=
            .deleteNode trivial (fun _ _ => trivial) outcome
          have here : Deleted [.node cell] run { run with store, counts } := by
            refine ⟨rfl, ?_, fun _ => removes.isLive⟩
            intro entity member
            rw [List.mem_singleton.mp member]
            exact Store.not_isLive_of_deleteNode outcome
          have same : (deleteNodes detach (cell :: cells)).run.run run =
              (deleteNodes detach cells).run.run { run with store, counts } := by
            rw [deleteNodes, run_bind, run_get]
            dsimp only
            rw [outcome]
            rfl
          refine Ends.of_run_eq same ((induction { run with store, counts }).mono ?_)
          rintro _ after ⟨later, kept⟩
          exact ⟨here.trans later, kept⟩

theorem run_delete_unbound {name : String} (missing : run.meanings.find? name = none)
    (detach : Bool) (names : List String) :
    ∃ failure after, (delete detach (name :: names)).run.run run = (.error failure, after) := by
  rw [delete, run_bind, run_get]
  dsimp only
  rw [missing]
  exact ⟨_, _, rfl⟩

theorem run_delete_nodes {name : String} {cells : List Nat}
    (found : run.meanings.find? name = some (.nodes cells)) (detach : Bool)
    (names : List String) :
    (delete detach (name :: names)).run.run run =
      (do deleteNodes detach cells
          delete detach names : Running Unit).run.run
        { run with meanings := run.meanings.erase name } := by
  rw [delete, run_bind, run_get]
  dsimp only
  rw [found, run_bind]
  rfl

theorem run_delete_edge {name : String} {cell : Nat}
    (found : run.meanings.find? name = some (.edge cell)) (detach : Bool)
    (names : List String) :
    (delete detach (name :: names)).run.run run =
      (delete detach names).run.run
        { run with
          store := run.store.deleteEdge cell
          meanings := run.meanings.erase name
          counts := run.counts.add { deleted := 1 } } := by
  rw [delete, run_bind, run_get]
  dsimp only
  rw [found, run_bind]
  rfl

/-- The variables are bound, and what they denote is deleted. -/
def DeletedAll (names : List String) (run after : Execution) : Prop :=
  (∀ name ∈ names, run.meanings.find? name ≠ none) ∧
    Deleted ((BoundClause.delete names true).mentions run) run after

/-- A variable that has been deleted is unbound, so that the others are other variables. -/
theorem DeletedAll.cons {between : Execution} {name : String} {names : List String}
    {meaning : Meaning} (found : run.meanings.find? name = some meaning)
    (deleted : Deleted meaning.entities run between)
    (erased : between.meanings = run.meanings.erase name)
    (later : DeletedAll names between after) : DeletedAll (name :: names) run after := by
  obtain ⟨bound, later⟩ := later
  have same : ∀ other ∈ names,
      between.meanings.find? other = run.meanings.find? other := by
    intro other member
    have nothing := bound other member
    rw [erased, OrderedMap.find?_erase] at nothing ⊢
    split at nothing
    · exact absurd rfl nothing
    next different => exact if_neg different
  constructor
  · intro other member
    rcases List.mem_cons.mp member with rfl | rest
    · rw [found]
      exact nofun
    · rw [← same other rest]
      exact bound other rest
  · have kept : (BoundClause.delete names true).mentions between =
        (BoundClause.delete names true).mentions run := by
      apply List.flatMap_congr
      intro other member
      rw [same other member]
    have joined : (BoundClause.delete (name :: names) true).mentions run =
        meaning.entities ++ (BoundClause.delete names true).mentions run := by
      simp [BoundClause.mentions, found]
    rw [joined, ← kept]
    exact deleted.trans later

theorem deleted_delete (detach : Bool) (names : List String) (run : Execution) :
    Succeeds (delete detach names) run fun _ after => DeletedAll names run after := by
  induction names generalizing run with
  | nil => exact ⟨nofun, rfl, nofun, fun _ => id⟩
  | cons name names induction =>
      cases found : run.meanings.find? name with
      | none =>
          obtain ⟨failure, after, ended⟩ := run_delete_unbound found detach names
          unfold Succeeds Ends
          rw [ended]
          trivial
      | some meaning =>
          cases meaning with
          | nodes cells =>
              apply Ends.of_run_eq (run_delete_nodes found detach names)
              refine (deleted_deleteNodes detach cells _).bind ?_
              rintro _ between ⟨⟨counted, gone, wasLive⟩, erased⟩
              exact (induction between).mono fun _ _ later =>
                .cons found ⟨counted, gone, wasLive⟩ erased later
          | edge cell =>
              apply Ends.of_run_eq (run_delete_edge found detach names)
              refine (induction _).mono fun _ after later => .cons found ?_ rfl later
              have removes : Store.Removes (fun _ => True) run.store
                  (run.store.deleteEdge cell) := .deleteEdge run.store trivial
              refine ⟨rfl, ?_, fun _ => removes.isLive⟩
              intro entity member
              rw [List.mem_singleton.mp member, Store.isLive_edge]
              simp [Store.deleteEdge, Arena.get?_erase]

/-- A clause counts what it mentions, and leaves nothing of it. -/
theorem deleted_clause (first : BoundClause) (run : Execution) :
    Succeeds (clause first) run fun _ after =>
      after.counts.deleted = run.counts.deleted + (first.mentions run).length ∧
      ∀ entity ∈ first.mentions run, ¬after.store.IsLive entity := by
  by_cases deletes : first.Deletes
  · obtain ⟨names, detach, rfl⟩ := first.exists_of_deletes deletes
    refine Ends.bind (deleted_delete detach names run) ?_
    rintro _ after ⟨-, deleted⟩
    exact ⟨deleted.counted, deleted.gone⟩
  · have kept : Preserves (·.counts.deleted = run.counts.deleted) (clause first) := by
      refine .clause_of_not_deletes (fun _ _ => id) (fun _ _ _ _ => id) ?_ deletes
      intro run counts none same
      change run.counts.deleted + counts.deleted = _
      rw [none, Nat.add_zero, same]
    rw [BoundClause.mentions_of_not_deletes deletes]
    have ends : Ends (clause first) run _ _ := kept run rfl
    exact ends.imp (fun _ _ same => ⟨same, nofun⟩) fun _ _ _ => trivial

/-! ## The clauses of a run -/

/-- A clause that is run, with the states around it. -/
structure Passage where
  clause : BoundClause
  before : Execution
  after : Execution

namespace Passage

def mentions (passage : Passage) : List Entity := passage.clause.mentions passage.before

/-- What was there before the clause, is mentioned by it, and is gone after it: each thing
once. -/
def removed (passage : Passage) : List Entity :=
  passage.mentions.dedup.filter fun entity =>
    (passage.before.store.entity? entity).isSome && (passage.after.store.entity? entity).isNone

theorem length_removed_le (passage : Passage) :
    passage.removed.length ≤ passage.mentions.length :=
  List.length_filter_le _ _ |>.trans (List.dedup_sublist _).length_le

theorem length_removed_eq_iff {passage : Passage}
    (gone : ∀ entity ∈ passage.mentions, ¬passage.after.store.IsLive entity) :
    passage.removed.length = passage.mentions.length ↔
      passage.mentions.Nodup ∧
        ∀ entity ∈ passage.mentions, passage.before.store.IsLive entity := by
  have filtered : passage.removed.Sublist passage.mentions.dedup := List.filter_sublist
  have once : passage.mentions.dedup.Sublist passage.mentions := List.dedup_sublist _
  constructor
  · intro same
    have all : passage.removed = passage.mentions := (filtered.trans once).eq_of_length same
    have distinct : passage.mentions.dedup = passage.mentions :=
      once.eq_of_length_le (same ▸ filtered.length_le)
    refine ⟨List.dedup_eq_self.mp distinct, ?_⟩
    intro entity member
    rw [← all] at member
    have tested := (List.mem_filter.mp member).2
    exact (Bool.and_eq_true_iff.mp tested).1
  · intro ⟨distinct, live⟩
    have all : passage.removed = passage.mentions.dedup := by
      apply List.filter_eq_self.mpr
      intro entity member
      have mentioned := List.mem_dedup.mp member
      have dead := Option.not_isSome_iff_eq_none.mp (gone entity mentioned)
      rw [dead]
      exact Bool.and_eq_true_iff.mpr ⟨live entity mentioned, rfl⟩
    rw [all, distinct.dedup]

end Passage

/-- The clauses that are run, each with the states around it. -/
def passages : List BoundClause → Execution → List Passage
  | [], _ => []
  | first :: rest, run =>
      match (clause first).run.run run with
      | (.ok true, after) => ⟨first, run, after⟩ :: passages rest after
      | (_, after) => [⟨first, run, after⟩]

/-- A clause is run after the clauses before it have gone on. -/
theorem through_of_mem_passages {passage : Passage} (member : passage ∈ passages list start) :
    ∃ early late, list = early ++ passage.clause :: late ∧
      through early start = some passage.before := by
  induction list generalizing start with
  | nil => cases member
  | cons first rest induction =>
      rw [passages] at member
      split at member
      next after ended =>
        rcases List.mem_cons.mp member with rfl | later
        · exact ⟨[], rest, rfl, rfl⟩
        · obtain ⟨early, late, rfl, reaches⟩ := induction later
          exact ⟨first :: early, late, rfl, through_cons.mpr ⟨after, ended, reaches⟩⟩
      next =>
        rw [List.mem_singleton.mp member]
        exact ⟨[], rest, rfl, rfl⟩

/-- A run that succeeds counts what its clauses mention. -/
theorem deleted_passages (ran : (clauses list).run.run start = (.ok (), final)) :
    final.counts.deleted =
      start.counts.deleted + ((passages list start).map (·.mentions.length)).sum ∧
    ∀ passage ∈ passages list start, ∀ entity ∈ passage.mentions,
      ¬passage.after.store.IsLive entity := by
  induction list generalizing start with
  | nil =>
      cases ran
      exact ⟨rfl, fun _ member => absurd member List.not_mem_nil⟩
  | cons first rest induction =>
      rw [clauses, run_bind] at ran
      have deleted := deleted_clause first start
      unfold Succeeds Ends at deleted
      rw [passages]
      rcases ended : (clause first).run.run start with ⟨outcome, after⟩
      rw [ended] at ran deleted
      cases outcome with
      | error failure => cases ran
      | ok goesOn =>
          obtain ⟨counted, gone⟩ := deleted
          cases goesOn with
          | false =>
              cases ran
              refine ⟨by simpa [Passage.mentions] using counted, ?_⟩
              intro passage member
              rw [List.mem_singleton.mp member]
              exact gone
          | true =>
              obtain ⟨total, others⟩ := induction ran
              constructor
              · rw [total, counted, List.map_cons, List.sum_cons, Nat.add_assoc]
                rfl
              · intro passage member
                rcases List.mem_cons.mp member with rfl | later
                · exact gone
                · exact others passage later

/-- Sums of parts are equal only if each part is. -/
theorem sum_map_eq_iff {α : Type} {list : List α} {left right : α → Nat}
    (smaller : ∀ item ∈ list, left item ≤ right item) :
    (list.map left).sum = (list.map right).sum ↔ ∀ item ∈ list, left item = right item := by
  constructor
  · intro same
    by_contra different
    push Not at different
    obtain ⟨item, member, differs⟩ := different
    have less := lt_of_le_of_ne (smaller item member) differs
    exact absurd same (List.sum_lt_sum left right smaller ⟨item, member, less⟩).ne
  · intro same
    rw [List.map_congr_left same]

/-! ## Variables that denote what is there -/

/-- Variables denote what is there, each thing once. -/
def Intact (run : Execution) : Prop :=
  ∀ name meaning, run.meanings.find? name = some meaning →
    meaning.entities.Nodup ∧ ∀ entity ∈ meaning.entities, run.store.IsLive entity

theorem preserves_nodup (first : BoundClause) :
    Preserves (fun run => ∀ name meaning, run.meanings.find? name = some meaning →
      meaning.entities.Nodup) (clause first) := by
  refine .clause (fun _ _ => id) ?_ ?_ (fun _ _ => id) first
  · intro run name meaning distinct before other denoted found
    rw [OrderedMap.find?_insert] at found
    split at found
    · cases found
      exact distinct
    · exact before other denoted found
  · intro run name before other denoted found
    rw [OrderedMap.find?_erase] at found
    split at found
    · cases found
    · exact before other denoted found

/-- Until something is deleted, variables denote what is there. -/
theorem intact_through (ran : through list start = some final)
    (keep : ∀ clause ∈ list, ¬clause.Deletes) (intact : Intact start) : Intact final := by
  induction list generalizing start with
  | nil =>
      cases ran
      exact intact
  | cons first rest induction =>
      obtain ⟨here, others⟩ := List.forall_mem_cons.mp keep
      obtain ⟨next, ended, later⟩ := through_cons.mp ran
      apply induction later others
      intro name meaning found
      have distinct := (preserves_nodup first start fun name meaning found =>
        (intact name meaning found).1).of_ok ended
      refine ⟨distinct name meaning found, ?_⟩
      have effect := effect_of_run ended
      rcases effect.meanings name with same | unbound | ⟨-, denoted, bound, live⟩
      · intro entity member
        exact effect.stays here entity ((intact name meaning (same ▸ found)).2 entity member)
      · rw [found] at unbound
        cases unbound
      · cases bound.symm.trans found
        exact live

theorem Intact.mentions {name : String} {detach : Bool} (intact : Intact run) :
    ((BoundClause.delete [name] detach).mentions run).Nodup ∧
      ∀ entity ∈ (BoundClause.delete [name] detach).mentions run, run.store.IsLive entity := by
  rw [BoundClause.mentions, List.flatMap_singleton]
  cases found : run.meanings.find? name with
  | none => exact ⟨List.nodup_nil, nofun⟩
  | some meaning => exact intact name meaning found

/-- The count of deletions is the number of mentions.  It is never less than the number of
things that the clauses delete, and it is that number exactly if no clause mentions a thing
twice or one that is gone. -/
theorem counts_deleted_of_run {statement : BoundStatement} {store reached : Store}
    {counts : ChangeCounts} (ran : statement.run store = (.ok counts, reached)) :
    let run := passages statement.clauses { text := statement.text, store }
    let removed := (run.map (·.removed.length)).sum
    counts.deleted = (run.map (·.mentions.length)).sum ∧
    removed ≤ counts.deleted ∧
    (counts.deleted = removed ↔ ∀ passage ∈ run, passage.mentions.Nodup ∧
      ∀ entity ∈ passage.mentions, passage.before.store.IsLive entity) ∧
    ((∀ names detach, .delete names detach ∈ statement.clauses → ∃ name, names = [name]) →
      (statement.clauses.Pairwise fun earlier later => earlier.Deletes → ¬later.Deletes) →
      counts.deleted = removed) := by
  intro run removed
  rw [BoundStatement.run] at ran
  rcases ended : (clauses statement.clauses).run.run { text := statement.text, store } with
    ⟨outcome, final⟩
  rw [ended] at ran
  cases outcome with
  | error failure => cases ran
  | ok value =>
      cases ran
      obtain ⟨counted, gone⟩ := deleted_passages ended
      rw [Nat.zero_add] at counted
      have smaller : ∀ passage ∈ run, passage.removed.length ≤ passage.mentions.length :=
        fun passage _ => passage.length_removed_le
      have equal : final.counts.deleted = removed ↔ ∀ passage ∈ run, passage.mentions.Nodup ∧
          ∀ entity ∈ passage.mentions, passage.before.store.IsLive entity := by
        rw [counted, eq_comm, sum_map_eq_iff smaller]
        exact forall₂_congr fun passage member =>
          Passage.length_removed_eq_iff (gone passage member)
      refine ⟨counted, counted ▸ List.sum_le_sum smaller, equal, ?_⟩
      intro single once
      rw [equal]
      intro passage member
      obtain ⟨early, late, split, reaches⟩ := through_of_mem_passages member
      have ran : passage.clause ∈ statement.clauses := by
        rw [split]
        exact List.mem_append_right early List.mem_cons_self
      by_cases deletes : passage.clause.Deletes
      · have keep : ∀ clause ∈ early, ¬clause.Deletes := by
          rw [split] at once
          intro clause earlier clauseDeletes
          exact (List.pairwise_append.mp once).2.2 clause earlier _ List.mem_cons_self
            clauseDeletes deletes
        have unbound : Intact { text := statement.text, store } := nofun
        have intact := intact_through reaches keep unbound
        obtain ⟨names, detach, same⟩ := passage.clause.exists_of_deletes deletes
        obtain ⟨name, rfl⟩ := single names detach (same ▸ ran)
        rw [Passage.mentions, same]
        exact intact.mentions
      · rw [Passage.mentions, BoundClause.mentions_of_not_deletes deletes]
        exact ⟨List.nodup_nil, nofun⟩

/-- One of two related nodes is deleted, and the relationship with it is not counted. -/
theorem counts_deleted_of_run_related :
    let typed (name : String) : BoundNode := ⟨some name, some "T", OrderedMap.empty⟩
    let statement : BoundStatement := ⟨"CREATE (a:T)-[:R]->(b:T) DETACH DELETE a",
      [.path .create (typed "a") ⟨none, "R", OrderedMap.empty⟩ (typed "b"),
        .delete ["a"] true]⟩
    let run := passages statement.clauses { text := statement.text, store := Store.empty }
    (statement.run Store.empty).1 = .ok { nodes := 2, relationships := 1, deleted := 1 } ∧
      (run.map (·.removed.length)).sum = 1 := by
  intro typed statement run
  have succeeded : (statement.run Store.empty).1 =
      .ok { nodes := 2, relationships := 1, deleted := 1 } := rfl
  have ran : statement.run Store.empty =
      (.ok { nodes := 2, relationships := 1, deleted := 1 }, (statement.run Store.empty).2) :=
    Prod.ext succeeded rfl
  obtain ⟨-, -, -, same⟩ := counts_deleted_of_run ran
  refine ⟨succeeded, (same ?_ ?_).symm⟩
  · intro names detach member
    simp only [statement, List.mem_cons, List.not_mem_nil, or_false, reduceCtorEq, false_or,
      BoundClause.delete.injEq] at member
    exact ⟨"a", member.1⟩
  · rw [List.pairwise_pair]
    intro creates
    cases creates

/-- Both variables denote the one node that is there, and it is counted twice. -/
theorem not_counts_deleted_alias :
    let typed (name : String) : BoundNode := ⟨some name, some "T", OrderedMap.empty⟩
    let statement : Statement := { text := "MERGE (a:T) MERGE (b:T) DETACH DELETE a, b" }
    let prepared : BoundStatement := ⟨statement.text,
      [.node .merge (typed "a"), .node .merge (typed "b"), .delete ["a", "b"] true]⟩
    let run := passages prepared.clauses { text := prepared.text, store := Store.empty }
    statement.prepare = .ok prepared ∧
    (prepared.run Store.empty).1 = .ok { nodes := 2, deleted := 2 } ∧
    run.map (·.mentions) = [[], [], [.node 0, .node 0]] ∧
    run.map (·.removed) = [[], [], [.node 0]] := by
  intro typed statement prepared run
  have passed : statement.prepare = .ok prepared := by
    unfold Statement.prepare Clause.ofText
    simp only [statement, String.reduceToList]
    rfl
  refine ⟨passed, rfl, ?_⟩
  clear passed
  decide +kernel +revert

end Running

end CodeGraph
