import CodeGraph.Kind

/-!
# Sets of kinds

A set of node kinds is a word with one bit per kind.  Membership after an insertion
or a removal is what the names say.
-/

namespace CodeGraph

/-- A set of node kinds: bit `kind.code` says whether the kind is a member. -/
structure KindSet where
  bits : BitVec Kind.count
deriving DecidableEq, Repr

namespace KindSet

/-- The set without members. -/
def empty : KindSet := ⟨0⟩

instance : Inhabited KindSet := ⟨empty⟩

private def bit (kind : Kind) : BitVec Kind.count := BitVec.twoPow _ kind.code

def insert (set : KindSet) (kind : Kind) : KindSet := ⟨set.bits ||| bit kind⟩

/-- The set without a member. -/
def erase (set : KindSet) (kind : Kind) : KindSet := ⟨set.bits &&& ~~~ bit kind⟩

def contains (set : KindSet) (kind : Kind) : Bool := set.bits.getLsbD kind.code

def toList (set : KindSet) : List Kind := Kind.all.filter set.contains

def size (set : KindSet) : Nat := set.toList.length

/-- Has the set no members? -/
def isEmpty (set : KindSet) : Bool := set.bits == 0

def ofList (kinds : List Kind) : KindSet := kinds.foldl insert empty

private theorem getLsbD_bit (kind probe : Kind) :
    (bit kind).getLsbD probe.code = decide (probe = kind) := by
  cases kind <;> cases probe <;> decide

@[simp] theorem contains_empty (kind : Kind) : empty.contains kind = false := by
  cases kind <;> rfl

@[simp] theorem contains_insert (set : KindSet) (kind probe : Kind) :
    (set.insert kind).contains probe = (decide (probe = kind) || set.contains probe) := by
  simp [insert, contains, getLsbD_bit, Bool.or_comm]

@[simp] theorem contains_erase (set : KindSet) (kind probe : Kind) :
    (set.erase kind).contains probe = (decide (probe ≠ kind) && set.contains probe) := by
  have inside : probe.code < Kind.count := by cases probe <;> decide
  have outside := getLsbD_bit kind probe
  simp only [erase, contains, BitVec.getLsbD_and, BitVec.getLsbD_not, inside, outside]
  simp [Bool.and_comm]

@[simp] theorem mem_toList (set : KindSet) (kind : Kind) :
    kind ∈ set.toList ↔ set.contains kind = true := by
  simp [toList, Kind.mem_all]

end KindSet

end CodeGraph
