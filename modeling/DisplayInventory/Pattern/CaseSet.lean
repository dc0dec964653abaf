import DisplayInventory.Pattern.CharSet

/-!
# Sets of characters and their cases

Where cases do not count, a set has to hold with every letter its other case.  Of some sets that is
known without looking at their characters: the empty set and the set of all characters are closed
under a change of case, and so is whatever is made of closed sets alone.  A set with this note asks
for the cases of its letters only when it has to.
-/

namespace DisplayInventory.Pattern

/-- A set of characters with a note. -/
structure CaseSet where
  set : CharSet
  /-- Whether the set is known to be closed under a change of case. -/
  closed : Bool
  deriving DecidableEq

namespace CaseSet

def none : CaseSet :=
  ⟨.none, true⟩

def ofSet (set : CharSet) : CaseSet :=
  ⟨set, set.isEmpty⟩

/-- The characters of either set.  What is known of the first one stays if the second one adds
nothing. -/
def union (first second : CaseSet) : CaseSet :=
  if second.set.isEmpty ∨ first.set = second.set then first
  else ⟨first.set.union second.set, first.closed && second.closed⟩

def intersection (first second : CaseSet) : CaseSet :=
  if first.set.isEmpty then first
  else if second.set.isEmpty then none
  else ⟨first.set.intersection second.set, first.closed && second.closed⟩

def difference (first second : CaseSet) : CaseSet :=
  if first.set.isEmpty ∨ second.set.isEmpty then first
  else ⟨first.set.difference second.set, first.closed && second.closed⟩

def symmetricDifference (first second : CaseSet) : CaseSet :=
  (first.union second).difference (first.intersection second)

def complement (set : CaseSet) : CaseSet :=
  ⟨set.set.complement, set.closed || set.set.isEmpty⟩

def needsCases (set : CaseSet) : Bool :=
  !set.closed && !set.set.isEmpty

def withBothCases (set : CaseSet) : CaseSet :=
  if set.needsCases then ⟨set.set.withBothCases, true⟩ else ⟨set.set, true⟩

end CaseSet

structure GrowingSet where
  set : CaseSet := .none
  /-- The ranges that are not in the set yet, in any order. -/
  added : List (Nat × Nat) := []

namespace GrowingSet

def add (growing : GrowingSet) (first last : Char) : GrowingSet :=
  { growing with added := (first.toNat, last.toNat) :: growing.added }

/-- The set with all that was added to it; then nothing is known of it. -/
def grown (growing : GrowingSet) : CaseSet :=
  if growing.added.isEmpty then growing.set
  else ⟨growing.set.set.union (.ofRanges growing.added), false⟩

theorem contains_grown (growing : GrowingSet) (c : Char) :
    growing.grown.set.contains c =
      (growing.set.set.contains c || CharSet.covers growing.added c.toNat) := by
  cases hadded : growing.added <;> simp [grown, hadded, CharSet.contains_ofRanges, CharSet.covers]

def union (growing : GrowingSet) (set : CaseSet) : GrowingSet :=
  ⟨growing.grown.union set, []⟩

end GrowingSet

end DisplayInventory.Pattern
