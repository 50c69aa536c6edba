import CodeGraph.Proofs.Loader.Embedded
import CodeGraph.Proofs.Store.Reachable
import CodeGraph.Proofs.Store.Settled

/-!
# Running again

A second run with the same facts leaves the store as the first one left it.  The facts
that a run writes have different keys, so that each is still settled when the run ends,
and the second run writes the same facts.
-/

namespace CodeGraph

/-- The first facts have different keys. -/
theorem Fact.pairwise_firsts (seen : List FactKey) (facts : List Fact) :
    (Fact.firsts seen facts).Pairwise fun left right => left.key ≠ right.key := by
  induction facts generalizing seen with
  | nil => exact List.Pairwise.nil
  | cons first facts induction =>
      rw [Fact.firsts]
      split
      · exact induction seen
      · refine List.Pairwise.cons ?_ (induction (first.key :: seen))
        intro later member same
        exact (Fact.mem_firsts member).2 (same ▸ List.mem_cons_self)

namespace Store

variable {store : Store} {facts : List Fact}

theorem Sound.foldl_write (sound : Sound store) : Sound (facts.foldl Store.write store) := by
  induction facts generalizing store with
  | nil => exact sound
  | cons fact facts induction => exact induction (sound.write fact)

theorem Sound.settled_write (sound : Sound store) {fact : Fact}
    (plain : keyProperty ∉ fact.attributes.keys) : Settled (store.write fact) fact := by
  cases fact with
  | node fact => exact sound.settled_writeNode plain
  | edge fact => exact sound.settled_writeEdge fact

theorem Settled.write {fact other : Fact} (settled : Settled store other)
    (sound : Sound store) (plain : keyProperty ∉ fact.attributes.keys)
    (different : other.key ≠ fact.key) : Settled (store.write fact) other := by
  cases fact with
  | node fact => exact settled.writeNode sound plain different
  | edge fact => exact settled.writeEdge sound different

theorem Settled.foldl_write {other : Fact} (settled : Settled store other)
    (sound : Sound store) (plain : ∀ fact ∈ facts, keyProperty ∉ fact.attributes.keys)
    (different : ∀ fact ∈ facts, other.key ≠ fact.key) :
    Settled (facts.foldl Store.write store) other := by
  induction facts generalizing store with
  | nil => exact settled
  | cons fact facts induction =>
      apply induction
      · exact settled.write sound (plain fact List.mem_cons_self)
          (different fact List.mem_cons_self)
      · exact sound.write fact
      · exact fun later member => plain later (List.mem_cons_of_mem fact member)
      · exact fun later member => different later (List.mem_cons_of_mem fact member)

/-- Facts with different keys are all settled once they have been written. -/
theorem Sound.settled_foldl_write (sound : Sound store)
    (plain : ∀ fact ∈ facts, keyProperty ∉ fact.attributes.keys)
    (different : facts.Pairwise fun left right => left.key ≠ right.key) :
    ∀ fact ∈ facts, Settled (facts.foldl Store.write store) fact := by
  induction facts generalizing store with
  | nil => simp
  | cons first facts induction =>
      have restPlain : ∀ fact ∈ facts, keyProperty ∉ fact.attributes.keys :=
        fun fact member => plain fact (List.mem_cons_of_mem first member)
      obtain ⟨fromFirst, restDifferent⟩ := List.pairwise_cons.mp different
      intro fact member
      rw [List.foldl_cons]
      rcases List.mem_cons.mp member with here | later
      · subst fact
        have settled := sound.settled_write (plain first List.mem_cons_self)
        exact settled.foldl_write (sound.write first) restPlain fromFirst
      · exact induction (sound.write first) restPlain restDifferent fact later

theorem Sound.foldl_write_of_settled (sound : Sound store)
    (settled : ∀ fact ∈ facts, Settled store fact) : facts.foldl Store.write store = store := by
  induction facts with
  | nil => rfl
  | cons fact facts induction =>
      rw [List.foldl_cons, sound.write_of_settled (settled fact List.mem_cons_self)]
      exact induction fun later member => settled later (List.mem_cons_of_mem fact member)

end Store

/-- Running twice with the same facts, none of which sets the key, leaves exactly the store
that running once leaves. -/
theorem Session.load_again {session : EmbeddedSession} (ready : session.state = .ready)
    (reachable : Store.Reachable session.store) (filter : Filter) (batchSize : Nat)
    {facts : List Fact} (plain : ∀ fact ∈ facts, keyProperty ∉ fact.attributes.keys) :
    ∃ stats again store,
      Loader.load accessor filter batchSize [] facts (.embedded session) =
        (.ok stats, .embedded { session with store }) ∧
      Loader.load accessor filter batchSize [] facts (.embedded { session with store }) =
        (.ok again, .embedded { session with store }) := by
  have sound := reachable.sound
  have writtenPlain : ∀ fact ∈ filter.written facts, keyProperty ∉ fact.attributes.keys :=
    fun fact member => plain fact (Filter.mem_written member).1
  have different : (filter.written facts).Pairwise fun left right => left.key ≠ right.key :=
    Fact.pairwise_firsts [] _
  have settled := sound.settled_foldl_write writtenPlain different
  have unchanged := sound.foldl_write.foldl_write_of_settled settled
  obtain ⟨stats, first⟩ := load_eq_write ready filter batchSize facts
  let after : EmbeddedSession :=
    { session with store := (filter.written facts).foldl Store.write session.store }
  have afterReady : after.state = .ready := ready
  obtain ⟨again, second⟩ := load_eq_write afterReady filter batchSize facts
  rw [show (filter.written facts).foldl Store.write after.store = after.store from unchanged]
    at second
  exact ⟨stats, again, _, first, second⟩

/-- The store has two nodes with one key, of which only one is indexed; the relationship
comes before the node that it starts at, and comes twice. -/
theorem Session.load_again_rekeyed :
    let session : EmbeddedSession :=
      { path := "store", state := .ready, store := Store.rekeyed }
    let inherits : EdgeFact := ⟨.inherits, "a", "b", OrderedMap.ofList [("line", .int 3)]⟩
    let declared : NodeFact := ⟨.type, "a", OrderedMap.ofList [("kind", .text "class")]⟩
    let facts : List Fact := [.edge inherits, .node declared, .edge inherits]
    ∃ stats again store,
      Loader.load accessor (Filter.empty false) 2 [] facts (.embedded session) =
        (.ok stats, .embedded { session with store }) ∧
      Loader.load accessor (Filter.empty false) 2 [] facts
          (.embedded { session with store }) =
        (.ok again, .embedded { session with store }) := by
  intro session inherits declared facts
  have plain : ∀ fact ∈ facts, keyProperty ∉ fact.attributes.keys := by decide
  exact load_again rfl Store.reachable_rekeyed (Filter.empty false) 2 plain

end CodeGraph
