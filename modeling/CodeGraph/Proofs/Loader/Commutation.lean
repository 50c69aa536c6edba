import CodeGraph.Proofs.Loader.Graph
import CodeGraph.Proofs.Store.Isomorphism

/-!
# The order of two facts

The statements of two facts with different keys can be applied in either order, and both orders
lead to the same graph up to the numbers of cells.
-/

namespace CodeGraph

namespace Picture

theorem mentions_write (picture : Picture) (fact : Fact) (key : NodeKey) :
    (picture.write fact).mentions key ↔ picture.mentions key ∨ key ∈ fact.key.nodes := by
  cases fact with
  | node fact => exact or_congr Iff.rfl List.mem_singleton.symm
  | edge fact =>
      change (picture.mentions key ∨ _) ∨ _ ↔ picture.mentions key ∨ key ∈ [_, _]
      rw [or_assoc, List.mem_cons, List.mem_singleton]
      rfl

private theorem update_comm {κ : Type} [DecidableEq κ] {key other : κ} (different : key ≠ other)
    (values : κ → Properties) (change otherChange : Properties → Properties) :
    (fun asked =>
      if asked = other then
        otherChange (if other = key then change (values key) else values other)
      else if asked = key then change (values key) else values asked) =
    fun asked =>
      if asked = key then
        change (if key = other then otherChange (values other) else values key)
      else if asked = other then otherChange (values other) else values asked := by
  funext asked
  by_cases first : asked = key
  · subst asked
    simp [different]
  · by_cases second : asked = other
    · subst asked
      simp [first]
    · simp [first, second]

/-- Facts with different keys are written to a picture in any order. -/
theorem write_comm (picture : Picture) {first second : Fact}
    (different : first.key ≠ second.key) :
    (picture.write first).write second = (picture.write second).write first := by
  have mentions : ((picture.write first).write second).mentions =
      ((picture.write second).write first).mentions := by
    funext key
    apply propext
    rw [mentions_write, mentions_write, mentions_write, mentions_write]
    exact or_right_comm
  cases first with
  | node first =>
      cases second with
      | node second =>
          have apart : (⟨first.label, first.name⟩ : NodeKey) ≠ ⟨second.label, second.name⟩ :=
            fun same => different (NodeKey.key_eq_factKey_iff.mpr same.symm)
          have described := update_comm apart picture.described
            (Properties.overlay · first.attributes.toProperties)
            (Properties.overlay · second.attributes.toProperties)
          exact Picture.ext mentions described rfl rfl
      | edge second => exact Picture.ext mentions rfl rfl rfl
  | edge first =>
      cases second with
      | node second => exact Picture.ext mentions rfl rfl rfl
      | edge second =>
          let key : EdgeKey := ⟨first.relation, first.source, first.target⟩
          let other : EdgeKey := ⟨second.relation, second.source, second.target⟩
          have apart : key ≠ other :=
            fun same => different (EdgeKey.key_eq_factKey_iff.mpr same.symm)
          have joins : ((picture.write (.edge first)).write (.edge second)).joins =
              ((picture.write (.edge second)).write (.edge first)).joins := by
            funext asked
            exact propext or_right_comm
          have annotated := update_comm apart picture.annotated
            (Properties.overlay · first.attributes.toProperties)
            (Properties.overlay · second.attributes.toProperties)
          exact Picture.ext mentions rfl joins annotated

end Picture

/-- The statement can be applied to the first store, and leads to the second. -/
def Statement.Applies (statement : Statement) (before after : Store) : Prop :=
  ∃ bound counts, statement.prepare = .ok bound ∧ bound.run before = (.ok counts, after)

theorem Statement.applies_ofFact (fact : Fact) (store : Store) :
    (ofFact fact).Applies store (store.write fact) := by
  obtain ⟨counts, written⟩ := run_bound fact store
  exact ⟨bound fact, counts, prepare_ofFact fact, written⟩

namespace Store

/-- The statements of two facts with different keys, neither of which sets the key, can be
applied in either order, and the graphs that they lead to are isomorphic. -/
theorem Reachable.facts_commute {store : Store} (reachable : Reachable store)
    {first second : Fact} (different : first.key ≠ second.key)
    (firstPlain : keyProperty ∉ first.attributes.keys)
    (secondPlain : keyProperty ∉ second.attributes.keys) :
    ∃ afterFirst afterSecond left right,
      (Statement.ofFact first).Applies store afterFirst ∧
      (Statement.ofFact second).Applies afterFirst left ∧
      (Statement.ofFact second).Applies store afterSecond ∧
      (Statement.ofFact first).Applies afterSecond right ∧
      Isomorphic left right := by
  have sound := reachable.sound
  have firstEarly : ∀ fact ∈ [first, second], keyProperty ∉ fact.attributes.keys := by
    simp [firstPlain, secondPlain]
  have secondEarly : ∀ fact ∈ [second, first], keyProperty ∉ fact.attributes.keys := by
    simp [firstPlain, secondPlain]
  obtain ⟨fromLeft, leftPicture⟩ := sound.develops_foldl_write firstEarly
  obtain ⟨fromRight, rightPicture⟩ := sound.develops_foldl_write secondEarly
  have same := leftPicture.trans
    ((store.picture.write_comm different).trans rightPicture.symm)
  exact ⟨store.write first, store.write second, _, _,
    Statement.applies_ofFact first store, Statement.applies_ofFact second _,
    Statement.applies_ofFact second store, Statement.applies_ofFact first _,
    fromLeft.isomorphic fromRight ((sound.write first).write second)
      ((sound.write second).write first) same sound⟩

/-- The store has two nodes with one key, of which only one is indexed; the node fact is about
the node that the relationship starts at. -/
theorem Reachable.facts_commute_rekeyed :
    let inherits : EdgeFact := ⟨.inherits, "a", "c", OrderedMap.ofList [("line", .int 3)]⟩
    let declared : NodeFact := ⟨.type, "a", OrderedMap.ofList [("kind", .text "class")]⟩
    ∃ afterFirst afterSecond left right,
      (Statement.mergeEdge inherits).Applies rekeyed afterFirst ∧
      (Statement.mergeNode declared).Applies afterFirst left ∧
      (Statement.mergeNode declared).Applies rekeyed afterSecond ∧
      (Statement.mergeEdge inherits).Applies afterSecond right ∧
      Isomorphic left right := by
  intro inherits declared
  exact @Reachable.facts_commute _ reachable_rekeyed (.edge inherits) (.node declared)
    (by decide) (by decide) (by decide)

end Store

end CodeGraph
