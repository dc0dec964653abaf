/-!
# Sets of characters

A set of characters is a list of inclusive ranges of code points, in ascending order of their
beginnings.  Main statements: a union, a complement and an intersection contain the characters that
they should.
-/

namespace DisplayInventory.Pattern

/-- Inclusive ranges of code points. -/
structure CharSet where
  ranges : List (Nat × Nat)
  ascending : ranges.Pairwise fun first second => first.1 <= second.1
  deriving DecidableEq

namespace CharSet

def lastPoint : Nat := 0x10FFFF

def covers (ranges : List (Nat × Nat)) (n : Nat) : Bool :=
  ranges.any fun range => range.1 <= n && n <= range.2

def contains (set : CharSet) (c : Char) : Bool :=
  covers set.ranges c.toNat

def between (first last : Char) : CharSet :=
  ⟨[(first.toNat, last.toNat)], List.pairwise_singleton _ _⟩

def single (c : Char) : CharSet :=
  between c c

def none : CharSet :=
  ⟨[], List.Pairwise.nil⟩

def isEmpty (set : CharSet) : Bool :=
  set.ranges.isEmpty

/-! ## Joining ranges -/

def joinedFrom : Nat × Nat -> List (Nat × Nat) -> List (Nat × Nat)
  | range, [] => [range]
  | range, next :: rest =>
      if next.1 <= range.2 + 1 then joinedFrom (range.1, max range.2 next.2) rest
      else range :: joinedFrom next rest

theorem first_le_of_mem_joinedFrom {range found : Nat × Nat} {ranges : List (Nat × Nat)}
    (hsorted : (range :: ranges).Pairwise fun first second => first.1 <= second.1)
    (hfound : found ∈ joinedFrom range ranges) : range.1 <= found.1 := by
  induction ranges generalizing range with
  | nil =>
      have heq : found = range := by simpa [joinedFrom] using hfound
      exact Nat.le_of_eq (congrArg Prod.fst heq.symm)
  | cons next rest ih =>
      obtain ⟨hfirst, hrest⟩ := List.pairwise_cons.1 hsorted
      have hnext : range.1 <= next.1 := hfirst next (by simp)
      rw [joinedFrom] at hfound
      split at hfound
      · have hmerged : ((range.1, max range.2 next.2) :: rest).Pairwise
            fun first second => first.1 <= second.1 := List.pairwise_cons.2
          ⟨fun other hother => hfirst other (by simp [hother]), (List.pairwise_cons.1 hrest).2⟩
        have hle := ih hmerged hfound
        exact hle
      · rcases List.mem_cons.1 hfound with rfl | hmem
        · exact Nat.le_refl _
        · exact Nat.le_trans hnext (ih hrest hmem)

theorem pairwise_joinedFrom {range : Nat × Nat} {ranges : List (Nat × Nat)}
    (hsorted : (range :: ranges).Pairwise fun first second => first.1 <= second.1) :
    (joinedFrom range ranges).Pairwise fun first second => first.1 <= second.1 := by
  induction ranges generalizing range with
  | nil => simp [joinedFrom]
  | cons next rest ih =>
      obtain ⟨hfirst, hrest⟩ := List.pairwise_cons.1 hsorted
      have hnext : range.1 <= next.1 := hfirst next (by simp)
      rw [joinedFrom]
      split
      · exact ih (List.pairwise_cons.2
          ⟨fun other hother => hfirst other (by simp [hother]), (List.pairwise_cons.1 hrest).2⟩)
      · exact List.pairwise_cons.2
          ⟨fun found hfound => Nat.le_trans hnext (first_le_of_mem_joinedFrom hrest hfound),
            ih hrest⟩

theorem covers_joinedFrom {range : Nat × Nat} {ranges : List (Nat × Nat)}
    (hsorted : (range :: ranges).Pairwise fun first second => first.1 <= second.1) (n : Nat) :
    covers (joinedFrom range ranges) n = covers (range :: ranges) n := by
  induction ranges generalizing range with
  | nil => rfl
  | cons next rest ih =>
      obtain ⟨hfirst, hrest⟩ := List.pairwise_cons.1 hsorted
      have hnext : range.1 <= next.1 := hfirst next (by simp)
      rw [joinedFrom]
      split
      · have hmerged : ((range.1, max range.2 next.2) :: rest).Pairwise
            fun first second => first.1 <= second.1 := List.pairwise_cons.2
          ⟨fun other hother => hfirst other (by simp [hother]), (List.pairwise_cons.1 hrest).2⟩
        rw [ih hmerged]
        simp only [covers, List.any_cons, ← Bool.or_assoc]
        congr 1
        rw [Bool.eq_iff_iff]
        simp only [Bool.and_eq_true, Bool.or_eq_true, decide_eq_true_eq]
        omega
      · have hjoin := ih hrest
        simp only [covers, List.any_cons] at hjoin ⊢
        rw [hjoin]

/-- Ascending ranges, with those joined that leave no gap. -/
def joined : List (Nat × Nat) -> List (Nat × Nat)
  | [] => []
  | range :: rest => joinedFrom range rest

theorem pairwise_joined {ranges : List (Nat × Nat)}
    (hsorted : ranges.Pairwise fun first second => first.1 <= second.1) :
    (joined ranges).Pairwise fun first second => first.1 <= second.1 := by
  cases ranges with
  | nil => exact List.Pairwise.nil
  | cons range rest => exact pairwise_joinedFrom hsorted

theorem covers_joined {ranges : List (Nat × Nat)}
    (hsorted : ranges.Pairwise fun first second => first.1 <= second.1) (n : Nat) :
    covers (joined ranges) n = covers ranges n := by
  cases ranges with
  | nil => rfl
  | cons range rest => exact covers_joinedFrom hsorted n

def sorted (ranges : List (Nat × Nat)) : List (Nat × Nat) :=
  ranges.mergeSort fun first second => first.1 <= second.1

theorem pairwise_sorted (ranges : List (Nat × Nat)) :
    (sorted ranges).Pairwise fun first second => first.1 <= second.1 := by
  have hpairwise : (sorted ranges).Pairwise fun first second => decide (first.1 <= second.1) :=
    List.pairwise_mergeSort (by intro a b c; simp; omega) (by intro a b; simp; omega) ranges
  exact hpairwise.imp fun h => by simpa using h

theorem covers_sorted (ranges : List (Nat × Nat)) (n : Nat) :
    covers (sorted ranges) n = covers ranges n := by
  have hperm := List.mergeSort_perm ranges fun first second => decide (first.1 <= second.1)
  rw [Bool.eq_iff_iff]
  simp only [covers, List.any_eq_true]
  exact ⟨fun ⟨range, hmem, h⟩ => ⟨range, hperm.mem_iff.1 hmem, h⟩,
    fun ⟨range, hmem, h⟩ => ⟨range, hperm.mem_iff.2 hmem, h⟩⟩

def ofRanges (ranges : List (Nat × Nat)) : CharSet :=
  ⟨joined (sorted ranges), pairwise_joined (pairwise_sorted ranges)⟩

theorem contains_ofRanges (ranges : List (Nat × Nat)) (c : Char) :
    (ofRanges ranges).contains c = covers ranges c.toNat := by
  rw [contains, ofRanges, covers_joined (pairwise_sorted ranges), covers_sorted]

/-! ## Operations -/

def union (first second : CharSet) : CharSet :=
  ofRanges (first.ranges ++ second.ranges)

@[simp] theorem contains_union (first second : CharSet) (c : Char) :
    (first.union second).contains c = (first.contains c || second.contains c) := by
  rw [union, contains_ofRanges]
  simp [contains, covers]

/-- The gaps between ascending ranges from a code point on. -/
def gaps (start : Nat) : List (Nat × Nat) -> List (Nat × Nat)
  | [] => if start <= lastPoint then [(start, lastPoint)] else []
  | range :: rest =>
      let next := max start (range.2 + 1)
      if start < range.1 then (start, range.1 - 1) :: gaps next rest else gaps next rest

theorem le_first_of_mem_gaps {start : Nat} {ranges : List (Nat × Nat)} {gap : Nat × Nat}
    (hgap : gap ∈ gaps start ranges) : start <= gap.1 := by
  induction ranges generalizing start with
  | nil =>
      simp only [gaps] at hgap
      split at hgap
      · simp only [List.mem_singleton] at hgap
        simp [hgap]
      · simp at hgap
  | cons range rest ih =>
      simp only [gaps] at hgap
      split at hgap
      · rcases List.mem_cons.1 hgap with rfl | hmem
        · exact Nat.le_refl _
        · exact Nat.le_trans (Nat.le_max_left _ _) (ih hmem)
      · exact Nat.le_trans (Nat.le_max_left _ _) (ih hgap)

theorem pairwise_gaps (start : Nat) (ranges : List (Nat × Nat)) :
    (gaps start ranges).Pairwise fun first second => first.1 <= second.1 := by
  induction ranges generalizing start with
  | nil =>
      rw [gaps]
      split <;> simp
  | cons range rest ih =>
      simp only [gaps]
      split
      · exact List.pairwise_cons.2
          ⟨fun gap hgap => Nat.le_trans (Nat.le_max_left _ _) (le_first_of_mem_gaps hgap), ih _⟩
      · exact ih _

/-- A code point before all ranges lies in none of them. -/
theorem covers_eq_false {ranges : List (Nat × Nat)} {n : Nat}
    (hbefore : ∀ range ∈ ranges, n < range.1) : covers ranges n = false := by
  simp only [covers, List.any_eq_false]
  intro range hmem
  have hlt := hbefore range hmem
  simp
  omega

theorem covers_gaps {ranges : List (Nat × Nat)} (start : Nat) {n : Nat} (hlast : n <= lastPoint)
    (hsorted : ranges.Pairwise fun first second => first.1 <= second.1) :
    covers (gaps start ranges) n = (decide (start <= n) && !covers ranges n) := by
  induction ranges generalizing start with
  | nil =>
      rw [gaps]
      split
      · simp [covers, hlast]
      · simp [covers]
        omega
  | cons range rest ih =>
      obtain ⟨hfirst, hrest⟩ := List.pairwise_cons.1 hsorted
      have hgaps := ih (max start (range.2 + 1)) hrest
      have hbefore : covers rest n = true → range.1 <= n := by
        intro hcovers
        by_cases hle : range.1 <= n
        · exact hle
        · have hnot := covers_eq_false (n := n) fun other hother =>
            Nat.lt_of_lt_of_le (Nat.lt_of_not_le hle) (hfirst other hother)
          simp [hcovers] at hnot
      simp only [gaps]
      simp only [covers, List.any_cons] at hgaps hbefore ⊢
      cases hrest : rest.any fun range => range.1 <= n && n <= range.2 <;>
        simp only [hrest] at hgaps hbefore ⊢ <;> split <;>
        simp only [List.any_cons, hgaps] <;> rw [Bool.eq_iff_iff] <;> simp at hbefore ⊢ <;> omega

def complement (set : CharSet) : CharSet :=
  ⟨gaps 0 set.ranges, pairwise_gaps 0 set.ranges⟩

@[simp] theorem contains_complement (set : CharSet) (c : Char) :
    set.complement.contains c = !set.contains c := by
  have hlast : c.toNat <= lastPoint := by
    have hvalid := c.valid
    simp only [UInt32.isValidChar, Nat.isValidChar] at hvalid
    simp only [Char.toNat, lastPoint]
    omega
  simpa [complement, contains] using covers_gaps 0 hlast set.ascending

def intersection (first second : CharSet) : CharSet :=
  (first.complement.union second.complement).complement

@[simp] theorem contains_intersection (first second : CharSet) (c : Char) :
    (first.intersection second).contains c = (first.contains c && second.contains c) := by
  simp [intersection]

def difference (first second : CharSet) : CharSet :=
  first.intersection second.complement

@[simp] theorem contains_difference (first second : CharSet) (c : Char) :
    (first.difference second).contains c = (first.contains c && !second.contains c) := by
  simp [difference]

def symmetricDifference (first second : CharSet) : CharSet :=
  (first.difference second).union (second.difference first)

@[simp] theorem contains_symmetricDifference (first second : CharSet) (c : Char) :
    (first.symmetricDifference second).contains c = (first.contains c ^^ second.contains c) := by
  cases hfirst : first.contains c <;> cases hsecond : second.contains c <;>
    simp [symmetricDifference, hfirst, hsecond]

def withBothCases (set : CharSet) : CharSet :=
  let lower := set.intersection (between 'a' 'z')
  let upper := set.intersection (between 'A' 'Z')
  let raised := lower.ranges.map fun range => (range.1 - 32, range.2 - 32)
  let lowered := upper.ranges.map fun range => (range.1 + 32, range.2 + 32)
  ofRanges (set.ranges ++ raised ++ lowered)

end CharSet

end DisplayInventory.Pattern
