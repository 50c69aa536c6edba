import CodeGraph.Proofs.Node.Walk
import Mathlib.Data.List.Infix
import Mathlib.Data.List.Nodup

/-!
# The events of a walk

A walk enters nodes and leaves nodes.  Whatever its walker answers, and whatever the answers
depend on, these events are bracketed: a node is entered if all nodes above it were descended
into, and a node that was descended into is left after everything below it and before everything
that comes later.
-/

namespace CodeGraph

variable {σ : Type}

/-- Something that a walk does at a node, or at the place of a node. -/
inductive Event (α : Type) where
  | entered (place : α) (descends : Bool)
  | left (place : α)

namespace Event

variable {α β γ : Type}

def place : Event α → α
  | entered place _ | left place => place

def entered? : Event α → Option α
  | entered place _ => some place
  | left _ => none

def map (change : α → β) : Event α → Event β
  | entered place descends => entered (change place) descends
  | left place => left (change place)

theorem map_map (change : α → β) (next : β → γ) (event : Event α) :
    (event.map change).map next = event.map (next ∘ change) := by
  cases event <;> rfl

@[simp] theorem place_map (change : α → β) (event : Event α) :
    (event.map change).place = change event.place := by
  cases event <;> rfl

theorem entered?_map (change : α → β) (event : Event α) :
    (event.map change).entered? = event.entered?.map change := by
  cases event <;> rfl

theorem map_injective {change : α → β} (injective : Function.Injective change) :
    Function.Injective (Event.map change) := by
  intro first second same
  cases first <;> cases second <;> simp_all [Event.map, injective.eq_iff]

theorem entered_mem_map {change : α → β} {events : List (Event α)} {place : β}
    {descends : Bool} : .entered place descends ∈ events.map (Event.map change) ↔
      ∃ inner, .entered inner descends ∈ events ∧ change inner = place := by
  rw [List.mem_map]
  constructor
  · rintro ⟨event, member, same⟩
    cases event <;> cases same
    exact ⟨_, member, rfl⟩
  · rintro ⟨inner, member, rfl⟩
    exact ⟨_, member, rfl⟩

theorem left_mem_map {change : α → β} {events : List (Event α)} {place : β} :
    .left place ∈ events.map (Event.map change) ↔
      ∃ inner, .left inner ∈ events ∧ change inner = place := by
  rw [List.mem_map]
  constructor
  · rintro ⟨event, member, same⟩
    cases event <;> cases same
    exact ⟨_, member, rfl⟩
  · rintro ⟨inner, member, rfl⟩
    exact ⟨_, member, rfl⟩

theorem mem_filterMap_entered? {events : List (Event α)} {place : α} :
    place ∈ events.filterMap entered? ↔ ∃ descends, .entered place descends ∈ events := by
  rw [List.mem_filterMap]
  constructor
  · rintro ⟨event, member, found⟩
    cases event with
    | entered other descends =>
        cases found
        exact ⟨descends, member⟩
    | left other => cases found
  · rintro ⟨descends, member⟩
    exact ⟨_, member, rfl⟩

end Event

/-! ## Positions -/

/-- Where a node is in a tree: the number of the child for each step down. -/
abbrev Position := List Nat

namespace Node

/-- The node at a position. -/
def at? (node : Node) : Position → Option Node
  | [] => some node
  | index :: position => node.children[index]?.bind (at? · position)

mutual

/-- The positions of a tree, in preorder. -/
def positions : Node → List Position
  | ⟨_, _, _, _, _, _, _, _, _, children⟩ => [] :: positionsFrom 0 children

/-- The positions of several trees, the first of which has the given number. -/
def positionsFrom (index : Nat) : List Node → List Position
  | [] => []
  | node :: nodes => (positions node).map (index :: ·) ++ positionsFrom (index + 1) nodes

end

theorem positions_eq (node : Node) : node.positions = [] :: positionsFrom 0 node.children := by
  cases node
  rw [positions]

theorem mem_positionsFrom {index : Nat} {nodes : List Node} {position : Position} :
    position ∈ positionsFrom index nodes ↔
      ∃ number child inner, nodes[number]? = some child ∧ inner ∈ child.positions ∧
        position = (index + number) :: inner := by
  induction nodes generalizing index with
  | nil => simp [positionsFrom]
  | cons node nodes induction =>
      rw [positionsFrom, List.mem_append, List.mem_map, induction]
      constructor
      · rintro (⟨inner, member, rfl⟩ | ⟨number, child, inner, isChild, member, rfl⟩)
        · exact ⟨0, node, inner, rfl, member, rfl⟩
        · exact ⟨number + 1, child, inner, isChild, member, by rw [Nat.add_right_comm]; rfl⟩
      · rintro ⟨number, child, inner, isChild, member, rfl⟩
        cases number with
        | zero =>
            cases isChild
            exact .inl ⟨inner, member, rfl⟩
        | succ number =>
            exact .inr ⟨number, child, inner, isChild, member, by rw [Nat.add_right_comm]; rfl⟩

/-- The positions of a tree are those where it has a node. -/
theorem mem_positions {node : Node} {position : Position} :
    position ∈ node.positions ↔ (node.at? position).isSome = true := by
  induction position generalizing node with
  | nil => simp [positions_eq, at?]
  | cons index position induction =>
      rw [positions_eq, List.mem_cons, or_iff_right (List.cons_ne_nil _ _), mem_positionsFrom, at?]
      cases isChild : node.children[index]? with
      | none => simp [isChild]
      | some child => simp [isChild, induction]

theorem exists_of_mem_positionsFrom {index : Nat} {nodes : List Node} {position : Position}
    (member : position ∈ positionsFrom index nodes) :
    ∃ number inner, position = number :: inner ∧ index ≤ number := by
  obtain ⟨number, _, inner, -, -, same⟩ := mem_positionsFrom.mp member
  exact ⟨index + number, inner, same, Nat.le_add_right index number⟩

theorem nodup_positionsFrom {nodes : List Node} (each : ∀ node ∈ nodes, node.positions.Nodup)
    (index : Nat) : (positionsFrom index nodes).Nodup := by
  induction nodes generalizing index with
  | nil => exact List.nodup_nil
  | cons node nodes induction =>
      obtain ⟨first, rest⟩ := List.forall_mem_cons.mp each
      refine List.nodup_append.mpr
        ⟨first.map List.cons_injective, induction rest (index + 1), ?_⟩
      rintro position here other later rfl
      obtain ⟨inner, -, rfl⟩ := List.mem_map.mp here
      obtain ⟨number, _, same, behind⟩ := exists_of_mem_positionsFrom later
      cases same
      exact absurd behind (Nat.not_succ_le_self index)

theorem nodup_positions (node : Node) : node.positions.Nodup := by
  induction node using Node.induction with
  | step node induction =>
      rw [positions_eq]
      refine List.nodup_cons.mpr ⟨fun member => ?_, nodup_positionsFrom induction 0⟩
      obtain ⟨_, _, same, -⟩ := exists_of_mem_positionsFrom member
      cases same

end Node

/-! ## Bracketed events -/

/-- May the first event come before the second one?  Nothing at or below a position comes before
the position is entered or after it is left, nor does anything at or below a later sibling come
before it is left. -/
structure Event.Precedes (first second : Event Position) : Prop where
  entered : ∀ position descends, second = .entered position descends →
    ¬position <+: first.place
  left : ∀ position, first = .left position → ¬position <+: second.place
  sibling : ∀ outer index later, second = .left (outer ++ [index]) → index < later →
    ¬(outer ++ [later]) <+: first.place

namespace Event.Precedes

variable {event first second : Event Position}

theorem entered_top {descends : Bool} (other : ∀ answer, event ≠ .entered [] answer) :
    (Event.entered [] descends).Precedes event where
  entered position answer same above := by
    rw [same, List.prefix_nil.mp above] at other
    exact other answer rfl
  left _ same := nomatch same
  sibling outer _ _ _ _ above := by simpa [place] using List.prefix_nil.mp above

theorem left_top (below : event.place ≠ []) : event.Precedes (.left []) where
  entered _ _ same := nomatch same
  left position same above := by
    rw [same] at below
    exact below (List.prefix_nil.mp above)
  sibling outer index _ same := by simp at same

/-- The order of events in a tree is not changed by what is above the tree. -/
theorem inside (precedes : first.Precedes second) (index : Nat) :
    (first.map (index :: ·)).Precedes (second.map (index :: ·)) where
  entered position descends same above := by
    cases second with
    | left _ => cases same
    | entered inner _ =>
        cases same
        rw [place_map, List.cons_prefix_cons] at above
        exact precedes.entered inner descends rfl above.2
  left position same above := by
    cases first with
    | entered _ _ => cases same
    | left inner =>
        cases same
        rw [place_map, List.cons_prefix_cons] at above
        exact precedes.left inner rfl above.2
  sibling outer number later same behind above := by
    cases second with
    | entered _ _ => cases same
    | left inner =>
        rw [place_map] at above
        cases outer with
        | nil =>
            cases Event.left.inj same
            rw [List.nil_append, List.cons_prefix_cons] at above
            exact absurd above.1 (Nat.ne_of_gt behind)
        | cons step outer =>
            rw [List.cons_append, List.cons_prefix_cons] at above
            obtain ⟨-, rest⟩ := List.cons.inj (Event.left.inj same)
            exact precedes.sibling outer number later (congrArg Event.left rest) behind above.2

/-- What happens in a tree comes before what happens in a later one. -/
theorem of_lt {index later : Nat} (behind : index < later) {inner other : Position}
    (firstPlace : first.place = index :: inner) (secondPlace : second.place = later :: other) :
    first.Precedes second where
  entered position descends same above := by
    rw [same] at secondPlace
    rw [show position = later :: other from secondPlace, firstPlace, List.cons_prefix_cons] at above
    exact absurd above.1 (Nat.ne_of_gt behind)
  left position same above := by
    rw [same] at firstPlace
    rw [show position = index :: inner from firstPlace, secondPlace, List.cons_prefix_cons] at above
    exact absurd above.1 (Nat.ne_of_lt behind)
  sibling outer number sibling same after above := by
    rw [same] at secondPlace
    rw [firstPlace] at above
    cases outer with
    | nil =>
        obtain ⟨here, -⟩ := List.cons.inj (show [number] = later :: other from secondPlace)
        rw [List.nil_append, List.cons_prefix_cons] at above
        omega
    | cons step outer =>
        obtain ⟨here, -⟩ := List.cons.inj secondPlace
        rw [List.cons_append, List.cons_prefix_cons] at above
        omega

end Event.Precedes

/-- The events at some positions are those of a walk: the positions that are entered are those
below which nothing refused to be descended into, in their order, and those that were descended
into are left again. -/
structure Bracketed (positions : List Position) (events : List (Event Position)) : Prop where
  inOrder : (events.filterMap Event.entered?).Sublist positions
  reached : ∀ position ∈ positions, position ∈ events.filterMap Event.entered? ↔
    ∀ outer ∈ positions, outer <+: position → outer ≠ position → .entered outer true ∈ events
  left : ∀ position, .left position ∈ events ↔ .entered position true ∈ events
  once : events.Nodup
  ordered : events.Pairwise Event.Precedes

namespace Bracketed

variable {positions more : List Position} {events later : List (Event Position)}

theorem mem_positions (bracketed : Bracketed positions events) {event : Event Position}
    (member : event ∈ events) : event.place ∈ positions := by
  have entered : ∀ position descends, .entered position descends ∈ events →
      position ∈ positions := fun position descends here =>
    bracketed.inOrder.subset (Event.mem_filterMap_entered?.mpr ⟨descends, here⟩)
  cases event with
  | entered position descends => exact entered position descends member
  | left position => exact entered position true ((bracketed.left position).mp member)

theorem nil : Bracketed [] [] where
  inOrder := List.Sublist.slnil
  reached _ member := absurd member List.not_mem_nil
  left _ := by simp
  once := List.nodup_nil
  ordered := List.Pairwise.nil

/-- Nothing is done below a node that is not descended into. -/
theorem skipped (inner : ∀ position ∈ positions, position ≠ []) :
    Bracketed ([] :: positions) [.entered [] false] where
  inOrder := (List.nil_sublist positions).cons_cons []
  reached position member := by
    rw [Event.mem_filterMap_entered?]
    rcases List.mem_cons.mp member with rfl | below
    · simp
    · have apart := inner position below
      simp [apart, Ne.symm apart]
  left _ := by simp
  once := List.nodup_singleton _
  ordered := List.pairwise_singleton _ _

theorem descended (bracketed : Bracketed positions events)
    (inner : ∀ position ∈ positions, position ≠ []) :
    Bracketed ([] :: positions) (.entered [] true :: (events ++ [.left []])) := by
  have apart : ∀ event ∈ events, event.place ≠ [] := fun event member =>
    inner _ (bracketed.mem_positions member)
  have isEntered : ∀ place descends, .entered place descends ∈
      (.entered [] true :: (events ++ [.left []]) : List (Event Position)) ↔
        (place = [] ∧ descends = true) ∨ .entered place descends ∈ events := by
    simp
  constructor
  case inOrder =>
    have same : (.entered [] true :: (events ++ [.left []])).filterMap Event.entered? =
        [] :: events.filterMap Event.entered? := by
      simp [Event.entered?]
    rw [same]
    exact bracketed.inOrder.cons_cons []
  case reached =>
    intro position member
    simp only [Event.mem_filterMap_entered?, isEntered, List.forall_mem_cons, and_true]
    rcases List.mem_cons.mp member with rfl | below
    · refine iff_of_true ⟨true, .inl ⟨rfl, rfl⟩⟩ ⟨fun _ other => absurd rfl other, ?_⟩
      intro outer isPosition above
      exact absurd (List.prefix_nil.mp above) (inner outer isPosition)
    · have reached := bracketed.reached position below
      rw [Event.mem_filterMap_entered?] at reached
      simp only [inner position below, false_and, false_or, reached]
      constructor
      · intro all
        exact ⟨fun _ _ => .inl trivial, fun outer isPosition above other =>
          .inr (all outer isPosition above other)⟩
      · rintro ⟨-, all⟩ outer isPosition above other
        exact (all outer isPosition above other).resolve_left (inner outer isPosition)
  case left =>
    intro position
    simp [bracketed.left, or_comm]
  case once =>
    rw [List.nodup_cons, List.nodup_append]
    refine ⟨?_, bracketed.once, List.nodup_singleton _, ?_⟩
    · simp only [List.mem_append, List.mem_singleton, reduceCtorEq, or_false]
      exact fun member => apart _ member rfl
    · rintro event member other last rfl
      cases List.mem_singleton.mp last
      exact apart _ member rfl
  case ordered =>
    rw [List.pairwise_cons, List.pairwise_append]
    refine ⟨fun event member => .entered_top ?_, bracketed.ordered,
      List.pairwise_singleton _ _, fun event member last isLast => ?_⟩
    · rintro answer rfl
      rcases List.mem_append.mp member with member | last
      · exact apart _ member rfl
      · cases List.mem_singleton.mp last
    · cases List.mem_singleton.mp isLast
      exact .left_top (apart event member)

/-- The events in a tree, seen from above the tree. -/
theorem inside (bracketed : Bracketed positions events) (index : Nat) :
    Bracketed (positions.map (index :: ·)) (events.map (Event.map (index :: ·))) := by
  constructor
  case inOrder =>
    have same : (events.map (Event.map (index :: ·))).filterMap Event.entered? =
        (events.filterMap Event.entered?).map (index :: ·) := by
      rw [List.filterMap_map, List.map_filterMap]
      exact List.filterMap_congr fun event _ => event.entered?_map _
    rw [same]
    exact bracketed.inOrder.map _
  case reached =>
    simp only [List.forall_mem_map, Event.mem_filterMap_entered?, Event.entered_mem_map,
      List.cons_prefix_cons, true_and, ne_eq, List.cons.injEq, exists_eq_right]
    simpa only [Event.mem_filterMap_entered?] using bracketed.reached
  case left =>
    intro position
    simp only [Event.entered_mem_map, Event.left_mem_map, bracketed.left]
  case once => exact bracketed.once.map (Event.map_injective List.cons_injective)
  case ordered => exact bracketed.ordered.map _ fun _ _ precedes => precedes.inside index

/-- The events in a tree and in the trees beside it. -/
theorem beside (bracketed : Bracketed positions events) (others : Bracketed more later)
    {index : Nat} (first : ∀ position ∈ positions, ∃ inner, position = index :: inner)
    (behind : ∀ position ∈ more, ∃ number inner, position = number :: inner ∧ index < number) :
    Bracketed (positions ++ more) (events ++ later) := by
  have apart : ∀ outer ∈ positions, ∀ position ∈ more,
      ¬outer <+: position ∧ ¬position <+: outer := by
    intro outer isPosition position isLater
    obtain ⟨_, rfl⟩ := first outer isPosition
    obtain ⟨number, _, rfl, less⟩ := behind position isLater
    simp only [List.cons_prefix_cons]
    omega
  have here : ∀ position ∈ positions, ∀ descends, .entered position descends ∈ events ++ later ↔
      .entered position descends ∈ events := by
    intro position isPosition descends
    refine List.mem_append.trans (or_iff_left fun member => ?_)
    exact (apart position isPosition position (others.mem_positions member)).1 List.prefix_rfl
  have there : ∀ position ∈ more, ∀ descends, .entered position descends ∈ events ++ later ↔
      .entered position descends ∈ later := by
    intro position isLater descends
    refine List.mem_append.trans (or_iff_right fun member => ?_)
    exact (apart position (bracketed.mem_positions member) position isLater).1 List.prefix_rfl
  constructor
  case inOrder =>
    rw [List.filterMap_append]
    exact bracketed.inOrder.append others.inOrder
  case reached =>
    intro position member
    rw [Event.mem_filterMap_entered?, List.forall_mem_append]
    rcases List.mem_append.mp member with isPosition | isLater
    · simp only [here position isPosition, ← Event.mem_filterMap_entered?]
      rw [bracketed.reached position isPosition]
      constructor
      · intro all
        exact ⟨fun outer isOuter above other => (here outer isOuter true).mpr
            (all outer isOuter above other),
          fun outer isOuter above => absurd above (apart position isPosition outer isOuter).2⟩
      · rintro ⟨all, -⟩ outer isOuter above other
        exact (here outer isOuter true).mp (all outer isOuter above other)
    · simp only [there position isLater, ← Event.mem_filterMap_entered?]
      rw [others.reached position isLater]
      constructor
      · intro all
        exact ⟨fun outer isOuter above => absurd above (apart outer isOuter position isLater).1,
          fun outer isOuter above other => (there outer isOuter true).mpr
            (all outer isOuter above other)⟩
      · rintro ⟨-, all⟩ outer isOuter above other
        exact (there outer isOuter true).mp (all outer isOuter above other)
  case left =>
    intro position
    simp only [List.mem_append, bracketed.left, others.left]
  case once =>
    refine List.nodup_append.mpr ⟨bracketed.once, others.once, ?_⟩
    rintro event member other isLater rfl
    exact (apart _ (bracketed.mem_positions member) _ (others.mem_positions isLater)).1
      List.prefix_rfl
  case ordered =>
    refine List.pairwise_append.mpr ⟨bracketed.ordered, others.ordered, ?_⟩
    intro event member other isLater
    obtain ⟨_, firstPlace⟩ := first _ (bracketed.mem_positions member)
    obtain ⟨_, _, secondPlace, less⟩ := behind _ (others.mem_positions isLater)
    exact .of_lt less firstPlace secondPlace

end Bracketed

/-! ## Walking -/

namespace Walker

/-- The walker with a record of what the walk does at the nodes. -/
def recorded (walker : Walker σ) : Walker (σ × List (Event Node)) where
  enter node state :=
    let (descends, entered) := walker.enter node state.1
    (descends, entered, state.2 ++ [.entered node descends])
  leave node state := (walker.leave node state.1, state.2 ++ [.left node])

theorem enter_recorded (walker : Walker σ) (node : Node) (state : σ)
    (record : List (Event Node)) :
    walker.recorded.enter node (state, record) =
      ((walker.enter node state).1, (walker.enter node state).2,
        record ++ [.entered node (walker.enter node state).1]) := rfl

end Walker

/-- Events at nodes, and where in the tree they happen. -/
def Node.Locates (tree : Node) (record : List (Event Node)) (events : List (Event Position)) :
    Prop :=
  events.map (Event.map tree.at?) = record.map (Event.map some)

namespace Node

variable {walker : Walker σ}

/-- Wherever a walk over the tree starts, what it adds to the record is bracketed. -/
def Brackets (walker : Walker σ) (tree : Node) : Prop :=
  ∀ state record, ∃ added events,
    tree.walk walker.recorded (state, record) = (tree.walk walker state, record ++ added) ∧
      tree.Locates added events ∧ Bracketed tree.positions events

theorem Locates.append {tree : Node} {record later : List (Event Node)}
    {events more : List (Event Position)} (first : tree.Locates record events)
    (rest : tree.Locates later more) : tree.Locates (record ++ later) (events ++ more) := by
  rw [Locates, List.map_append, List.map_append, first, rest]

theorem Locates.inside {tree child : Node} {index : Nat}
    (isChild : tree.children[index]? = some child)
    {record : List (Event Node)} {events : List (Event Position)}
    (located : child.Locates record events) :
    tree.Locates record (events.map (Event.map (index :: ·))) := by
  have same : tree.at? ∘ (index :: ·) = child.at? := by
    funext position
    rw [Function.comp_apply, at?, isChild, Option.bind_some]
  rw [Locates, List.map_map, ← located]
  exact List.map_congr_left fun event _ => (event.map_map _ _).trans (by rw [same])

theorem brackets_all {index : Nat} {parent : Node} {nodes : List Node}
    (each : ∀ node ∈ nodes, Brackets walker node)
    (rest : parent.children.drop index = nodes) (state : σ) (record : List (Event Node)) :
    ∃ added events,
      walkAll walker.recorded nodes (state, record) =
          (walkAll walker nodes state, record ++ added) ∧
        parent.Locates added events ∧ Bracketed (positionsFrom index nodes) events := by
  induction nodes generalizing index state record with
  | nil => exact ⟨[], [], by rw [List.append_nil]; rfl, rfl, .nil⟩
  | cons node nodes induction =>
      obtain ⟨first, others⟩ := List.forall_mem_cons.mp each
      have isChild : parent.children[index]? = some node := by
        rw [← List.head?_drop, rest]
        rfl
      have after : parent.children.drop (index + 1) = nodes := by
        rw [← List.tail_drop, rest]
        rfl
      obtain ⟨added, events, walked, located, bracketed⟩ := first state record
      obtain ⟨more, later, walkedMore, locatedMore, bracketedMore⟩ :=
        induction others after (node.walk walker state) (record ++ added)
      refine ⟨added ++ more, events.map (Event.map (index :: ·)) ++ later, ?_,
        (located.inside isChild).append locatedMore, ?_⟩
      · rw [walkAll, walked, walkedMore, List.append_assoc]
        rfl
      · have here : ∀ position ∈ node.positions.map (index :: ·),
            ∃ inner, position = index :: inner := by
          intro position member
          obtain ⟨inner, -, same⟩ := List.mem_map.mp member
          exact ⟨inner, same.symm⟩
        exact (bracketed.inside index).beside bracketedMore here fun _ =>
          exists_of_mem_positionsFrom

theorem brackets (walker : Walker σ) (tree : Node) : Brackets walker tree := by
  induction tree using Node.induction with
  | step tree induction =>
      intro state record
      have inner : ∀ position ∈ positionsFrom 0 tree.children, position ≠ [] := by
        intro position member
        obtain ⟨_, _, rfl, -⟩ := exists_of_mem_positionsFrom member
        exact List.cons_ne_nil _ _
      rw [walk_eq, walk_eq, positions_eq, Walker.enter_recorded]
      rcases walker.enter tree state with ⟨descends, entered⟩
      cases descends with
      | false => exact ⟨[.entered tree false], [.entered [] false], rfl, rfl, .skipped inner⟩
      | true =>
          obtain ⟨added, events, walked, located, bracketed⟩ :=
            brackets_all induction List.drop_zero entered (record ++ [.entered tree true])
          refine ⟨.entered tree true :: (added ++ [.left tree]),
            .entered [] true :: (events ++ [.left []]), ?_, ?_, bracketed.descended inner⟩
          · dsimp only
            rw [walked]
            simp [Walker.recorded]
          · have top : tree.Locates [.entered tree true] [.entered [] true] := rfl
            have last : tree.Locates [.left tree] [.left []] := rfl
            exact top.append (located.append last)

/-- For every walker, whatever its answers depend on, a walk enters nodes in preorder, each of
them once at most, and exactly those below nodes that were all descended into.  It leaves just
the nodes that it descended into, each of them once, after everything it does below and before
everything it does at later siblings. -/
theorem walk_bracketed (walker : Walker σ) (tree : Node) (state : σ) :
    ∃ record events,
      tree.walk walker.recorded (state, []) = (tree.walk walker state, record) ∧
        tree.Locates record events ∧ Bracketed tree.positions events ∧
        tree.positions.Nodup ∧
        ∀ position, position ∈ tree.positions ↔ (tree.at? position).isSome = true := by
  obtain ⟨record, events, walked, located, bracketed⟩ := brackets walker tree state []
  exact ⟨record, events, walked, located, bracketed, tree.nodup_positions,
    fun _ => mem_positions⟩

end Node

end CodeGraph
