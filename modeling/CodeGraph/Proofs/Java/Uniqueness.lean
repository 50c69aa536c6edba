import CodeGraph.Proofs.Java.Numbering
import CodeGraph.Proofs.Java.Words
import CodeGraph.Proofs.Node.Types
import Mathlib.Data.List.Nodup

/-!
# Types told apart by their full names

The full name of a type is that of what is around it, a dot or a dollar sign, and a part of its
own.  So types have different full names if those that are declared in the same type do, and if
no declared type is named like an anonymous class.  The types that are declared in the bodies of
different methods are in the same type.
-/

namespace CodeGraph.Java

/-! ## Names and their parts -/

/-- If neither end has the separator of the other, both are cut at the same place. -/
theorem cut_at_separators {α : Type} {first second : α} {outer other last more : List α}
    (notIn : second ∉ last) (notInToo : first ∉ more)
    (same : outer ++ first :: last = other ++ second :: more) :
    outer = other ∧ first = second ∧ last = more := by
  rcases List.append_eq_append_iff.mp same with ⟨between, rfl, cut⟩ | ⟨between, rfl, cut⟩
  · cases between with
    | nil => exact ⟨(List.append_nil _).symm, List.cons.inj cut⟩
    | cons head between => exact absurd (by simp [(List.cons.inj cut).2]) notIn
  · cases between with
    | nil => exact ⟨List.append_nil _, List.cons.inj cut.symm⟩
    | cons head between => exact absurd (by simp [(List.cons.inj cut).2]) notInToo

theorem toList_qualify (outer name : String) :
    (qualify outer name).toList =
      if outer = "" then name.toList else outer.toList ++ '.' :: name.toList := by
  unfold qualify
  by_cases empty : outer = ""
  · simp [empty]
  · simp [empty]

theorem qualify_inj {outer other name more : String} (noDot : '.' ∉ name.toList)
    (noDotToo : '.' ∉ more.toList) (same : qualify outer name = qualify other more) :
    outer = other ∧ name = more := by
  have chars := congrArg String.toList same
  rw [toList_qualify, toList_qualify] at chars
  split at chars
  next atTop =>
    split at chars
    next atTopToo => exact ⟨atTop.trans atTopToo.symm, String.toList_inj.mp chars⟩
    next => exact absurd (by simp [chars]) noDot
  next =>
    split at chars
    next => exact absurd (by simp [← chars]) noDotToo
    next =>
      obtain ⟨sameOuter, -, sameName⟩ := cut_at_separators noDot noDotToo chars
      exact ⟨String.toList_inj.mp sameOuter, String.toList_inj.mp sameName⟩

theorem isDigit_of_mem_toString {number : Nat} {char : Char}
    (member : char ∈ (toString number).toList) : char.isDigit = true := by
  rw [Nat.toString_eq_ofList_toDigits, String.toList_ofList] at member
  exact Nat.isDigit_of_mem_toDigits (by decide) (by decide) member

theorem toString_inj {number more : Nat} (same : toString number = toString more) :
    number = more := by
  rw [Nat.toString_eq_ofList_toDigits, Nat.toString_eq_ofList_toDigits, String.ofList_inj] at same
  have read := congrArg (Nat.ofDigitChars 10 · 0) same
  simpa using read

theorem numbered_inj {outer other : String} {number more : Nat}
    (same : outer ++ "$" ++ toString number = other ++ "$" ++ toString more) :
    outer = other ∧ number = more := by
  have chars := congrArg String.toList same
  simp only [String.toList_append, List.append_assoc] at chars
  have noDollar (count : Nat) : '$' ∉ (toString count).toList :=
    fun isThere => absurd (isDigit_of_mem_toString isThere) (by decide)
  obtain ⟨sameOuter, -, sameNumber⟩ := cut_at_separators (noDollar number) (noDollar more) chars
  exact ⟨String.toList_inj.mp sameOuter, toString_inj (String.toList_inj.mp sameNumber)⟩

/-- A type without a dollar sign in its name is not named like an anonymous class. -/
theorem qualify_ne_numbered {outer other name : String} {number : Nat}
    (noDollar : '$' ∉ name.toList) : qualify outer name ≠ other ++ "$" ++ toString number := by
  intro same
  have chars := congrArg String.toList same
  have noDot : '.' ∉ (toString number).toList :=
    fun isThere => absurd (isDigit_of_mem_toString isThere) (by decide)
  rw [toList_qualify, String.toList_append, String.toList_append, List.append_assoc] at chars
  split at chars
  next => exact absurd (by simp [chars]) noDollar
  next =>
    obtain ⟨-, dots, -⟩ := cut_at_separators noDollar noDot chars
    exact absurd dots (by decide)

/-! ## Types that are named after what is around them -/

/-- The full name of a type, or the package of a source. -/
def fullName (node : Node) : String := node.qualifiedName.getD ""

/-- The type has a name in the type or package with the given full name. -/
inductive NamedIn (outer : String) (type : Node) : Prop where
  | declared {name : String} : type.kind.isNamedType = true → name ≠ "" → '.' ∉ name.toList →
      type.name = some name → type.qualifiedName = some (qualify outer name) → NamedIn outer type
  | anonymous {number : Nat} : type.kind = .anonymousClassDeclaration →
      type.qualifiedName = some (outer ++ "$" ++ toString number) → NamedIn outer type

namespace NamedIn

variable {outer other : String} {type more : Node}

theorem qualifiedName_eq (named : NamedIn outer type) :
    type.qualifiedName = some (fullName type) := by
  cases named with
  | declared _ _ _ _ same => rw [fullName, same]; rfl
  | anonymous _ same => rw [fullName, same]; rfl

theorem length_lt (named : NamedIn outer type) : outer.length < (fullName type).length := by
  cases named with
  | @declared name _ filled _ _ same =>
      rw [fullName, same, Option.getD_some, ← String.length_toList, ← String.length_toList,
        toList_qualify]
      split
      next atTop =>
        rw [atTop]
        exact List.length_pos_iff.mpr (mt String.toList_eq_nil_iff.mp filled)
      next =>
        rw [List.length_append, List.length_cons]
        omega
  | anonymous _ same =>
      rw [fullName, same, Option.getD_some, String.length_append, String.length_append]
      have : "$".length = 1 := rfl
      omega

/-- Types of a sort with the same full name are named after the same. -/
theorem outer_eq (first : NamedIn outer type) (second : NamedIn other more)
    (same : fullName type = fullName more)
    (alike : type.kind.isNamedType = more.kind.isNamedType) : outer = other := by
  cases first with
  | declared isNamed _ noDot _ qualified =>
      cases second with
      | declared _ _ noDotToo _ qualifiedToo =>
          rw [fullName, fullName, qualified, qualifiedToo] at same
          exact (qualify_inj noDot noDotToo same).1
      | anonymous isAnonymous =>
          rw [isNamed, isAnonymous] at alike
          cases alike
  | anonymous isAnonymous qualified =>
      cases second with
      | declared isNamed =>
          rw [isNamed, isAnonymous] at alike
          cases alike
      | anonymous _ qualifiedToo =>
          rw [fullName, fullName, qualified, qualifiedToo] at same
          exact (numbered_inj same).1

end NamedIn

/-- All types of a unit are named after what is around them, and declared types are not named like
anonymous classes. -/
structure NamesTypes (unit : Node) : Prop where
  namedIn : ∀ outer ∈ unit :: unit.types, ∀ type ∈ outer.ownTypes, NamedIn (fullName outer) type
  alike : ∀ type ∈ unit.types, ∀ other ∈ unit.types, fullName type = fullName other →
    type.kind.isNamedType = other.kind.isNamedType

namespace NamesTypes

variable {unit outer type other inner more : Node}

theorem length_le (names : NamesTypes unit) (around : outer ∈ unit :: unit.types)
    (inside : outer.Inside inner) : (fullName outer).length ≤ (fullName inner).length := by
  induction inside with
  | self => exact Nat.le_refl _
  | deeper within isOwn induction =>
      exact induction.trans (names.namedIn _ (within.mem_types around) _ isOwn).length_lt.le

/-- A type has not the name of one that stands deeper inside of the same. -/
theorem ne_of_deeper (names : NamesTypes unit) (around : outer ∈ unit :: unit.types)
    (isOwn : type ∈ outer.ownTypes) (isOwnToo : other ∈ outer.ownTypes)
    (inside : other.Inside inner) (below : more ∈ inner.ownTypes) :
    fullName type ≠ fullName more := by
  intro same
  have member := Node.mem_types_of_mem_ownTypes around isOwn
  have memberToo := Node.mem_types_of_mem_ownTypes around isOwnToo
  have aroundInner := inside.mem_types (List.mem_cons_of_mem _ memberToo)
  have alike := names.alike type member more (Node.mem_types_of_mem_ownTypes aroundInner below) same
  have outerSame := (names.namedIn outer around type isOwn).outer_eq
    (names.namedIn inner aroundInner more below) same alike
  have longer := (names.namedIn outer around other isOwnToo).length_lt
  have longest := names.length_le (List.mem_cons_of_mem _ memberToo) inside
  rw [← outerSame] at longest
  exact absurd longer (Nat.not_lt.mpr longest)

/-- If a name is given inside of two types that stand side by side, the two have one name. -/
theorem eq_of_inside (names : NamesTypes unit) (around : outer ∈ unit :: unit.types)
    (isOwn : type ∈ outer.ownTypes) (isOwnToo : other ∈ outer.ownTypes)
    (inside : type.Inside inner) (insideToo : other.Inside more)
    (same : fullName inner = fullName more) : fullName type = fullName other := by
  have member := Node.mem_types_of_mem_ownTypes around isOwn
  have memberToo := Node.mem_types_of_mem_ownTypes around isOwnToo
  induction inside generalizing more with
  | self =>
      cases insideToo with
      | self => exact same
      | deeper within below =>
          exact absurd same (names.ne_of_deeper around isOwn isOwnToo within below)
  | @deeper next inner within below induction =>
      cases insideToo with
      | self => exact absurd same.symm (names.ne_of_deeper around isOwnToo isOwn within below)
      | @deeper nextToo more withinToo belowToo =>
          have aroundNext := within.mem_types (List.mem_cons_of_mem _ member)
          have aroundNextToo := withinToo.mem_types (List.mem_cons_of_mem _ memberToo)
          have alike := names.alike inner (Node.mem_types_of_mem_ownTypes aroundNext below) more
            (Node.mem_types_of_mem_ownTypes aroundNextToo belowToo) same
          exact induction withinToo ((names.namedIn next aroundNext inner below).outer_eq
            (names.namedIn nextToo aroundNextToo more belowToo) same alike)

/-- All names differ if those of the types side by side do. -/
theorem nodup (names : NamesTypes unit)
    (siblings : ∀ outer ∈ unit :: unit.types, (outer.ownTypes.map fullName).Nodup)
    (around : outer ∈ unit :: unit.types) : (outer.innerTypes.map fullName).Nodup := by
  induction outer using Node.ownTypes_induction with
  | step outer induction =>
      rw [Node.innerTypes_eq, List.map_flatMap, List.nodup_flatMap]
      constructor
      · intro type isOwn
        have member := List.mem_cons_of_mem unit (Node.mem_types_of_mem_ownTypes around isOwn)
        refine List.nodup_cons.mpr ⟨fun again => ?_, induction type isOwn member⟩
        obtain ⟨inner, isInner, same⟩ := List.mem_map.mp again
        rw [Node.innerTypes_eq] at isInner
        obtain ⟨next, isNext, within⟩ := List.mem_flatMap.mp isInner
        have longer := (names.namedIn type member next isNext).length_lt
        have longest := names.length_le
          (List.mem_cons_of_mem _ (Node.mem_types_of_mem_ownTypes member isNext))
          (Node.inside_of_mem within)
        rw [same] at longest
        exact absurd longer (Nat.not_lt.mpr longest)
      · refine (List.pairwise_map.mp (siblings outer around)).imp_of_mem ?_
        intro type other isOwn isOwnToo different name isThere isThereToo
        obtain ⟨inner, isInner, rfl⟩ := List.mem_map.mp isThere
        obtain ⟨more, isMore, same⟩ := List.mem_map.mp isThereToo
        exact different (names.eq_of_inside around isOwn isOwnToo (Node.inside_of_mem isInner)
          (Node.inside_of_mem isMore) same.symm)

end NamesTypes

/-! ## The types of an outline -/

/-- Types that are declared in the same type, or outside of all types, have different names. -/
def SiblingsDiffer (unit : Node) : Prop :=
  ∀ outer ∈ unit :: unit.types, ((outer.own.filter (·.kind.isNamedType)).map (·.name)).Nodup

/-- No declared type has the full name of an anonymous class. -/
def DollarsDiffer (unit : Node) : Prop :=
  ∀ type ∈ unit.types, ∀ anonymous ∈ unit.types, type.kind.isNamedType = true →
    anonymous.kind = .anonymousClassDeclaration → type.qualifiedName ≠ anonymous.qualifiedName

instance (unit : Node) : Decidable (SiblingsDiffer unit) :=
  inferInstanceAs (Decidable (∀ outer ∈ unit :: unit.types, _))

/-- Could the text be the name of a type? -/
structure IsTypeName (name : String) : Prop where
  filled : name ≠ ""
  noDot : '.' ∉ name.toList

section

variable {file : String} {chars : Array Char} {tree : Tree}

theorem exists_numbered {type : Node}
    (member : type ∈ (outline file (.ofTree chars tree) tree).types) :
    type.qualifiedName = some (fullName type) ∧
      ∃ count, Numbered (some (fullName type)) 1 count type.children := by
  obtain ⟨occurrence, isThere, rfl⟩ := List.mem_map.mp member
  obtain ⟨isThere, isType⟩ := List.mem_filter.mp isThere
  obtain ⟨qualified, count, named, numbered⟩ :=
    allNumberOwn_outline file _ tree _ List.mem_cons_self occurrence isThere isType
  have same : fullName occurrence.node = qualified := by rw [fullName, named]; rfl
  rw [same]
  exact ⟨named, count, numbered⟩

theorem fullName_outline (file : String) (chars : Array Char) (tree : Tree) :
    let source := Source.ofTree chars tree
    fullName (outline file source tree) = source.declaredPackage tree := by
  intro source
  rw [← Source.package_ofTree, fullName, outline]
  dsimp only
  split
  next empty => exact (String.isEmpty_iff.mp empty).symm
  next => rfl

/-- The full name around an own type is that of the node around it, and outside of types there
are no anonymous ones. -/
theorem typeName?_of_ownType {outer type : Node}
    (around : outer ∈ outline file (.ofTree chars tree) tree ::
      (outline file (.ofTree chars tree) tree).types)
    (isOwn : type ∈ outer.ownTypes) :
    ∃ occurrence ∈ (outline file (.ofTree chars tree) tree).occurrences,
      occurrence.node = type ∧
      occurrence.typeName?.getD ((Source.ofTree chars tree).declaredPackage tree) =
        fullName outer ∧
      (occurrence.typeName?.isSome = true →
        outer ∈ (outline file (.ofTree chars tree) tree).types) := by
  obtain ⟨occurrence, isThere, same, nearest⟩ :=
    Node.exists_occurrence_of_mem_ownTypes around isOwn
  refine ⟨occurrence, isThere, same, ?_⟩
  rw [Occurrence.typeName?, nearest]
  rcases List.mem_cons.mp around with rfl | inside
  · refine ⟨(fullName_outline file chars tree).symm, fun isSome => ?_⟩
    cases isSome
  · rw [if_pos (Node.isType_of_mem_types inside), Option.bind_some, (exists_numbered inside).1]
    exact ⟨rfl, fun _ => inside⟩

/-- An own type is named after the node around it, and only in types there are anonymous ones. -/
theorem namedIn_outline
    (valid : ∀ name, (Source.ofTree chars tree).NamesType tree name → IsTypeName name)
    {outer type : Node}
    (around : outer ∈ outline file (.ofTree chars tree) tree ::
      (outline file (.ofTree chars tree) tree).types)
    (isOwn : type ∈ outer.ownTypes) : NamedIn (fullName outer) type ∧
      (type.kind = .anonymousClassDeclaration →
        outer ∈ (outline file (.ofTree chars tree) tree).types) := by
  obtain ⟨occurrence, isThere, rfl, outerName, inType⟩ := typeName?_of_ownType around isOwn
  have attributed := allAttributed_outline file chars tree _ List.mem_cons_self _ isThere
  rcases Bool.or_eq_true_iff.mp (Node.isType_of_mem_ownTypes isOwn) with isNamed | isAnonymous
  · obtain ⟨-, name, declared, named, qualified⟩ := attributed.namedType isNamed
    rw [outerName] at qualified
    obtain ⟨filled, noDot⟩ := valid name declared
    refine ⟨.declared isNamed filled noDot named qualified, fun isAnonymous => ?_⟩
    rw [isAnonymous] at isNamed
    cases isNamed
  · have isAnonymous : occurrence.node.kind = .anonymousClassDeclaration := by
      simpa using isAnonymous
    obtain ⟨name, number, above, -, qualified⟩ := attributed.anonymousType isAnonymous
    rw [above, Option.getD_some] at outerName
    rw [outerName] at qualified
    exact ⟨.anonymous isAnonymous qualified, fun _ => inType (by rw [above]; rfl)⟩

theorem namesTypes_outline
    (valid : ∀ name, (Source.ofTree chars tree).NamesType tree name → IsTypeName name)
    (apart : DollarsDiffer (outline file (.ofTree chars tree) tree)) :
    NamesTypes (outline file (.ofTree chars tree) tree) where
  namedIn _ around _ isOwn := (namedIn_outline valid around isOwn).1
  alike type member other memberToo same := by
    have qualified := (exists_numbered member).1
    have qualifiedToo := (exists_numbered memberToo).1
    rw [same, ← qualifiedToo] at qualified
    have sort (node : Node) (isType : node.kind.isType = true) :
        node.kind.isNamedType = true ∨ node.kind = .anonymousClassDeclaration := by
      simpa [Kind.isType] using isType
    rcases sort type (Node.isType_of_mem_types member) with isNamed | isAnonymous
    · rcases sort other (Node.isType_of_mem_types memberToo) with isNamedToo | isAnonymous
      · rw [isNamed, isNamedToo]
      · exact absurd qualified (apart type member other memberToo isNamed isAnonymous)
    · rcases sort other (Node.isType_of_mem_types memberToo) with isNamed | isAnonymousToo
      · exact absurd qualified.symm (apart other memberToo type member isNamed isAnonymous)
      · rw [isAnonymous, isAnonymousToo]

/-- The anonymous classes in a type have different numbers. -/
theorem nodup_anonymous {outer : Node}
    (inside : outer ∈ (outline file (.ofTree chars tree) tree).types) :
    ((outer.own.filter (·.kind == .anonymousClassDeclaration)).map fullName).Nodup := by
  obtain ⟨-, count, numbered⟩ := exists_numbered inside
  have names := congrArg (List.map fun label => label.1.getD "") numbered
  rw [List.map_map, List.map_map] at names
  have same : (outer.own.filter (·.kind == .anonymousClassDeclaration)).map fullName =
      (List.range' 1 count).map fun number => fullName outer ++ "$" ++ toString number := names
  rw [same]
  exact List.Nodup.map (fun number more both => (numbered_inj both).2) List.nodup_range'

theorem filter_ownTypes (outer : Node) :
    outer.ownTypes.filter (·.kind.isNamedType) = outer.own.filter (·.kind.isNamedType) := by
  rw [Node.ownTypes, List.filter_filter]
  refine List.filter_congr fun type _ => ?_
  rw [Kind.isType]
  cases type.kind.isNamedType <;> rfl

theorem nodup_declared
    (valid : ∀ name, (Source.ofTree chars tree).NamesType tree name → IsTypeName name)
    {outer : Node}
    (around : outer ∈ outline file (.ofTree chars tree) tree ::
      (outline file (.ofTree chars tree) tree).types) :
    ((outer.own.filter (·.kind.isNamedType)).map (·.name)).Nodup ↔
      ((outer.own.filter (·.kind.isNamedType)).map fullName).Nodup := by
  have named : ∀ type ∈ outer.own.filter (·.kind.isNamedType),
      ∃ name, '.' ∉ name.toList ∧ type.name = some name ∧
        fullName type = qualify (fullName outer) name := by
    intro type member
    obtain ⟨isOwn, isNamed⟩ := List.mem_filter.mp member
    have isType : type ∈ outer.ownTypes :=
      List.mem_filter.mpr ⟨isOwn, Bool.or_eq_true_iff.mpr (.inl isNamed)⟩
    cases (namedIn_outline valid around isType).1 with
    | @declared name _ _ noDot same qualified =>
        exact ⟨name, noDot, same, by rw [fullName, qualified]; rfl⟩
    | anonymous isAnonymous =>
        rw [isAnonymous] at isNamed
        cases isNamed
  rw [List.Nodup, List.Nodup, List.pairwise_map, List.pairwise_map]
  constructor <;> intro differ
  · refine differ.imp_of_mem fun member memberToo different same => different ?_
    obtain ⟨name, noDot, given, full⟩ := named _ member
    obtain ⟨more, noDotToo, givenToo, fullToo⟩ := named _ memberToo
    rw [full, fullToo] at same
    rw [given, givenToo, (qualify_inj noDot noDotToo same).2]
  · refine differ.imp_of_mem fun member memberToo different same => different ?_
    obtain ⟨name, -, given, full⟩ := named _ member
    obtain ⟨more, -, givenToo, fullToo⟩ := named _ memberToo
    rw [given, givenToo] at same
    rw [full, fullToo, Option.some.inj same]

theorem nodup_ownTypes
    (valid : ∀ name, (Source.ofTree chars tree).NamesType tree name → IsTypeName name)
    (apart : DollarsDiffer (outline file (.ofTree chars tree) tree))
    (siblings : SiblingsDiffer (outline file (.ofTree chars tree) tree)) {outer : Node}
    (around : outer ∈ outline file (.ofTree chars tree) tree ::
      (outline file (.ofTree chars tree) tree).types) : (outer.ownTypes.map fullName).Nodup := by
  have names := namesTypes_outline valid apart
  have others : outer.ownTypes.filter (! ·.kind.isNamedType) =
      outer.own.filter (·.kind == .anonymousClassDeclaration) := by
    rw [Node.ownTypes, List.filter_filter]
    refine List.filter_congr fun type _ => ?_
    cases type.kind <;> rfl
  have parts := (List.filter_append_perm (·.kind.isNamedType) outer.ownTypes).map fullName
  refine parts.nodup_iff.mp ?_
  rw [List.map_append, List.nodup_append]
  refine ⟨?_, ?_, ?_⟩
  · rw [filter_ownTypes]
    exact (nodup_declared valid around).mp (siblings outer around)
  · rw [others]
    by_cases inType : outer ∈ (outline file (.ofTree chars tree) tree).types
    · exact nodup_anonymous inType
    · have none : outer.own.filter (·.kind == .anonymousClassDeclaration) = [] := by
        rw [← others, List.filter_eq_nil_iff]
        intro type isOwn other
        cases (namedIn_outline valid around isOwn).1 with
        | declared isNamed => simp [isNamed] at other
        | anonymous isAnonymous =>
            exact inType ((namedIn_outline valid around isOwn).2 isAnonymous)
      rw [none]
      exact List.nodup_nil
  · intro name isDeclared again isOther same
    obtain ⟨type, isType, rfl⟩ := List.mem_map.mp isDeclared
    obtain ⟨other, isTypeToo, rfl⟩ := List.mem_map.mp isOther
    obtain ⟨isOwn, isNamed⟩ := List.mem_filter.mp isType
    obtain ⟨isOwnToo, notNamed⟩ := List.mem_filter.mp isTypeToo
    have alike := names.alike type (Node.mem_types_of_mem_ownTypes around isOwn) other
      (Node.mem_types_of_mem_ownTypes around isOwnToo) same
    simp [← alike, isNamed] at notNamed

theorem types_outline (file : String) (source : Source) (tree : Tree) :
    (outline file source tree).types = (outline file source tree).innerTypes :=
  Node.types_eq _

/-- The types in an outline have different full names just if types side by side have different
names and no declared type is named like an anonymous class. -/
theorem nodup_types_outline
    (valid : ∀ name, (Source.ofTree chars tree).NamesType tree name → IsTypeName name) :
    let unit := outline file (.ofTree chars tree) tree
    (unit.types.map (·.qualifiedName)).Nodup ↔ SiblingsDiffer unit ∧ DollarsDiffer unit := by
  intro unit
  have full : unit.types.map (·.qualifiedName) = (unit.types.map fullName).map some := by
    rw [List.map_map]
    exact List.map_congr_left fun type member => (exists_numbered member).1
  rw [full, List.nodup_map_iff (Option.some_injective _)]
  constructor
  · intro differ
    constructor
    · intro outer around
      refine (nodup_declared valid around).mpr ?_
      rw [← filter_ownTypes]
      have part := (outer.ownTypes_sublist).trans (Node.innerTypes_sublist around)
      exact differ.sublist ((List.filter_sublist.trans part).map fullName)
    · intro type member anonymous memberToo isNamed isAnonymous same
      have sameName : fullName type = fullName anonymous := by rw [fullName, same, fullName]
      rw [List.inj_on_of_nodup_map differ member memberToo sameName, isAnonymous] at isNamed
      cases isNamed
  · rintro ⟨siblings, apart⟩
    rw [types_outline]
    exact (namesTypes_outline valid apart).nodup
      (fun _ around => nodup_ownTypes valid apart siblings around) List.mem_cons_self

/-- Without dollar signs in the names of declared types none is named like an anonymous class. -/
theorem dollarsDiffer_outline
    (plain : ∀ type ∈ (outline file (.ofTree chars tree) tree).types,
      type.kind.isNamedType = true → ∀ name ∈ type.name, '$' ∉ name.toList) :
    DollarsDiffer (outline file (.ofTree chars tree) tree) := by
  have attributed := allAttributed_outline file chars tree _ List.mem_cons_self
  intro type member anonymous memberToo isNamed isAnonymous same
  obtain ⟨occurrence, isThere, rfl⟩ := List.mem_map.mp member
  obtain ⟨other, isThereToo, rfl⟩ := List.mem_map.mp memberToo
  obtain ⟨-, name, -, given, qualified⟩ :=
    (attributed occurrence (List.mem_filter.mp isThere).1).namedType isNamed
  obtain ⟨outer, number, -, -, numbered⟩ :=
    (attributed other (List.mem_filter.mp isThereToo).1).anonymousType isAnonymous
  rw [qualified, numbered] at same
  exact qualify_ne_numbered (plain _ member isNamed name given) (Option.some.inj same)

end

/-- The types in a source that can be read have different full names just if types that are
declared in the same type have different names, and no declared type is named like an anonymous
class.  None is if no declared type has a dollar sign in its name. -/
theorem outlineOfText_types_nodup {file text : String} {unit : Node}
    (read : outlineOfText file text = .ok unit) :
    ((unit.types.map (·.qualifiedName)).Nodup ↔ SiblingsDiffer unit ∧ DollarsDiffer unit) ∧
      ((∀ type ∈ unit.types, type.kind.isNamedType = true →
          ∀ name ∈ type.name, '$' ∉ name.toList) → DollarsDiffer unit) := by
  unfold outlineOfText at read
  dsimp only at read
  split at read
  next => cases read
  next tree parsed =>
    cases read
    refine ⟨nodup_types_outline fun name declared => ?_, dollarsDiffer_outline⟩
    exact ⟨Source.name_ne_empty_of_namesType parsed declared,
      Source.dot_not_mem_of_namesType parsed declared⟩

/-- Types of one name in a class, in an anonymous class of a local one, and outside. -/
theorem outlineOfText_types_nodup_inner :
    let text := "class A\x7bclass L\x7b\x7dvoid f()\x7bclass M\x7bObject o=new B()" ++
      "\x7bclass L\x7b\x7d\x7d;\x7d\x7d\x7denum L\x7b\x7d"
    ∃ unit, outlineOfText "A.java" text = .ok unit ∧
      unit.types.map (·.qualifiedName) =
        [some "A", some "A.L", some "A.M", some "A.M$1", some "A.M$1.L", some "L"] ∧
      (unit.types.map (·.qualifiedName)).Nodup := by
  intro text
  have found : ∃ tree ∈ Tree.ofChars? text.toList,
      let unit := outline "A.java" (.ofTree text.toList.toArray tree) tree
      unit.types.map (·.qualifiedName) =
        [some "A", some "A.L", some "A.M", some "A.M$1", some "A.M$1.L", some "L"] ∧
      SiblingsDiffer unit ∧ ∀ type ∈ unit.types, type.kind.isNamedType = true →
        ∀ name ∈ type.name, '$' ∉ name.toList := by
    decide +kernel
  obtain ⟨tree, parsed, names, siblings, plain⟩ := found
  have read : outlineOfText "A.java" text =
      .ok (outline "A.java" (.ofTree text.toList.toArray tree) tree) := by
    unfold outlineOfText
    dsimp only
    rw [parsed]
  obtain ⟨differ, noDollars⟩ := outlineOfText_types_nodup read
  exact ⟨_, read, names, differ.mpr ⟨siblings, noDollars plain⟩⟩

/-- In every part of the source the types that stand side by side have different names, but two
local classes in different methods have one full name. -/
theorem not_outlineOfText_types_nodup_local :
    let text := "class A\x7bvoid f()\x7bclass L\x7b\x7d\x7dvoid g()\x7bclass L\x7b\x7d\x7d\x7d"
    ∃ tree ∈ Tree.ofChars? text.toList,
      let source := Source.ofTree text.toList.toArray tree
      (∀ part ∈ tree.subtrees, (part.children.filterMap source.typeDeclared?).Nodup) ∧
        ((outline "A.java" source tree).types.map (·.qualifiedName)) =
          [some "A", some "A.L", some "A.L"] ∧
        ¬ ((outline "A.java" source tree).types.map (·.qualifiedName)).Nodup := by
  decide +kernel

end CodeGraph.Java
