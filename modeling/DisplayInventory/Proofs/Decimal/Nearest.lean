import DisplayInventory.Decimal.Hundredths
import Mathlib.Algebra.Order.Field.Rat
import Mathlib.Data.Nat.Cast.Order.Ring
import Mathlib.Tactic.FieldSimp
import Mathlib.Tactic.Linarith
import Mathlib.Tactic.Positivity
import Mathlib.Tactic.Ring

/-!
# Nearest numbers

What the two roundings of a quotient come to, told by distances between rational numbers.  The first
one finds, among all numbers of fifty-three significant bits, the one that is strictly nearer to the
quotient than any other; the second one finds a nearest natural number, and of two equally near ones
the even one.
-/

namespace DisplayInventory.Decimal

/-- Whether `n` is a natural number nearest to `q`, and even if another one is as near. -/
structure IsRounded (n : Nat) (q : ℚ) : Prop where
  near : |(n : ℚ) - q| ≤ 1 / 2
  even : |(n : ℚ) - q| = 1 / 2 -> n % 2 = 0

/-- Only a quotient halfway between two natural numbers is moved by one half. -/
theorem roundHalfEven_tie {num den : Nat} (hden : 0 < den)
    (htie : 2 * num = 2 * (den * roundHalfEven num den) + den ∨
      2 * (den * roundHalfEven num den) = 2 * num + den) :
    2 * (num % den) = den ∧ roundHalfEven num den % 2 = 0 := by
  have hsplit := Nat.div_add_mod num den
  have hlt := Nat.mod_lt num hden
  revert htie
  simp only [roundHalfEven]
  split
  · omega
  · split
    · rw [Nat.mul_add]
      omega
    · split
      · omega
      · omega

theorem abs_sub_div_eq (n num : Nat) {den : Nat} (hden : 0 < den) :
    |(n : ℚ) - num / den| = |(den * n : ℚ) - num| / den := by
  have hpos : (0 : ℚ) < den := by exact_mod_cast hden
  rw [← abs_of_pos hpos, ← abs_div, abs_of_pos hpos]
  congr 1
  field_simp

theorem tie_of_abs_eq {num den : Nat} (hden : 0 < den)
    (htie : |(roundHalfEven num den : ℚ) - num / den| = 1 / 2) :
    2 * (num % den) = den ∧ roundHalfEven num den % 2 = 0 := by
  have hpos : (0 : ℚ) < den := by exact_mod_cast hden
  rw [abs_sub_div_eq _ _ hden, div_eq_iff hpos.ne', abs_eq (by linarith)] at htie
  refine roundHalfEven_tie hden ?_
  rcases htie with habove | hbelow
  · right
    have heq : (2 * (den * roundHalfEven num den) : ℚ) = 2 * num + den := by linarith
    exact_mod_cast heq
  · left
    have heq : (2 * num : ℚ) = 2 * (den * roundHalfEven num den) + den := by linarith
    exact_mod_cast heq

theorem isRounded_roundHalfEven (num : Nat) {den : Nat} (hden : 0 < den) :
    IsRounded (roundHalfEven num den) (num / den) := by
  have hpos : (0 : ℚ) < den := by exact_mod_cast hden
  obtain ⟨hlow, hhigh⟩ := roundHalfEven_near num hden
  have hlow' : (2 * num : ℚ) ≤ 2 * (den * roundHalfEven num den) + den := by exact_mod_cast hlow
  have hhigh' : (2 * (den * roundHalfEven num den) : ℚ) ≤ 2 * num + den := by exact_mod_cast hhigh
  constructor
  · rw [abs_sub_div_eq _ _ hden, div_le_iff₀ hpos, abs_le]
    constructor <;> linarith
  · exact fun htie => (tie_of_abs_eq hden htie).2

/-- A quotient that is not halfway between two natural numbers has one that is strictly nearest. -/
theorem roundHalfEven_nearer {num den : Nat} (hden : 0 < den) (hties : 2 * (num % den) ≠ den)
    {m : Nat} (hm : m ≠ roundHalfEven num den) :
    |(roundHalfEven num den : ℚ) - num / den| < |(m : ℚ) - num / den| := by
  have hnear := (isRounded_roundHalfEven num hden).near
  have hless : |(roundHalfEven num den : ℚ) - num / den| < 1 / 2 :=
    lt_of_le_of_ne hnear fun htie => hties (tie_of_abs_eq hden htie).1
  have hapart : (1 : ℚ) ≤ |(m : ℚ) - roundHalfEven num den| := by
    have hint : (1 : ℤ) ≤ |(m : ℤ) - roundHalfEven num den| := by
      refine Int.one_le_abs (sub_ne_zero.mpr ?_)
      exact_mod_cast hm
    exact_mod_cast hint
  have hsum := abs_sub_le (m : ℚ) (num / den) (roundHalfEven num den)
  rw [abs_sub_comm ((num : ℚ) / den)] at hsum
  linarith

/-! ## Numbers of fifty-three bits -/

namespace Binary

def value (x : Binary) : ℚ :=
  x.significand / 2 ^ x.places

/-- Whether a number of fifty-three significant bits is nearer to `q` than all others of them. -/
structure IsNearest (x : Binary) (q : ℚ) : Prop where
  short : x.significand ≤ 2 ^ 53
  nearer : ∀ y : Binary, y.significand ≤ 2 ^ 53 -> y.value ≠ x.value ->
    |x.value - q| < |y.value - q|

theorem IsNearest.le {x : Binary} {q : ℚ} (hx : x.IsNearest q) {y : Binary}
    (hy : y.significand ≤ 2 ^ 53) : |x.value - q| ≤ |y.value - q| := by
  by_cases hvalue : y.value = x.value
  · rw [hvalue]
  · exact (hx.nearer y hy hvalue).le

/-- With as many places as are counted, a quotient has exactly fifty-three bits before the point. -/
theorem placesFor_bounds {num den : Nat} (hnum : num ≠ 0) (hden : den ≠ 0)
    (hfits : Nat.log2 num ≤ 52 + Nat.log2 den) :
    den * 2 ^ 52 ≤ num * 2 ^ placesFor num den ∧ num * 2 ^ placesFor num den < den * 2 ^ 53 := by
  have hnumLow := Nat.log2_self_le hnum
  have hnumHigh : num < 2 ^ (Nat.log2 num + 1) := Nat.lt_log2_self
  have hdenLow := Nat.log2_self_le hden
  have hdenHigh : den < 2 ^ (Nat.log2 den + 1) := Nat.lt_log2_self
  obtain ⟨extra, hextra⟩ := Nat.exists_eq_add_of_le hfits
  have hplaces : precision - 1 + Nat.log2 den - Nat.log2 num = extra := by
    rw [precision]
    omega
  have hlow : 2 ^ (52 + Nat.log2 den) ≤ num * 2 ^ extra := by
    rw [hextra, pow_add]
    exact Nat.mul_le_mul_right _ hnumLow
  have hhigh : num * 2 ^ extra < 2 * 2 ^ (52 + Nat.log2 den) := by
    calc
      num * 2 ^ extra < 2 ^ (Nat.log2 num + 1) * 2 ^ extra :=
        Nat.mul_lt_mul_of_pos_right hnumHigh (by positivity)
      _ = 2 * 2 ^ (52 + Nat.log2 den) := by
        rw [hextra]
        ring
  have hpower : 2 ^ (52 + Nat.log2 den) = 2 ^ Nat.log2 den * 2 ^ 52 := by
    rw [pow_add, Nat.mul_comm]
  have hdenPower : 2 ^ (Nat.log2 den + 1) = 2 * 2 ^ Nat.log2 den := by
    rw [pow_succ, Nat.mul_comm]
  have hcount : placesFor num den =
      if num * 2 ^ extra < den * 2 ^ 52 then extra + 1 else extra := by
    rw [placesFor, hplaces]
    rfl
  have hdouble : num * 2 ^ (extra + 1) = 2 * (num * 2 ^ extra) := by ring
  rw [hcount]
  by_cases hless : num * 2 ^ extra < den * 2 ^ 52
  · rw [if_pos hless, hdouble]
    omega
  · rw [if_neg hless]
    omega

theorem thirty_le_placesFor {num : Nat} (hnum : num ≠ 0) (hbound : num < 2 ^ 32) :
    30 ≤ placesFor num 1000 := by
  have hlog : Nat.log2 num ≤ 31 := Nat.le_of_lt_succ ((Nat.log2_lt hnum).mpr hbound)
  have hden : Nat.log2 1000 = 9 := by decide
  simp only [placesFor, hden, precision]
  split <;> omega

/-- Distances are taken in units of the last place. -/
theorem abs_sub_div_scaled (m num den places : Nat) :
    |(m : ℚ) / 2 ^ places - num / den| =
      |(m : ℚ) - (num * 2 ^ places : Nat) / den| / 2 ^ places := by
  have hpos : (0 : ℚ) < 2 ^ places := by positivity
  rw [← abs_of_pos hpos, ← abs_div, abs_of_pos hpos]
  push_cast
  congr 1
  field_simp

theorem value_of_places_le {y : Binary} {places : Nat} (hplaces : y.places ≤ places) :
    ∃ m : Nat, y.value = m / 2 ^ places := by
  obtain ⟨extra, rfl⟩ := Nat.exists_eq_add_of_le hplaces
  refine ⟨y.significand * 2 ^ extra, ?_⟩
  rw [value, pow_add]
  push_cast
  field_simp

/-- A number with more places than a quotient needs is too small for it. -/
theorem value_le_of_lt_places {y : Binary} {places : Nat} (hplaces : places < y.places)
    (hy : y.significand ≤ 2 ^ 53) : y.value ≤ (2 ^ 52 : Nat) / 2 ^ places := by
  obtain ⟨extra, hextra⟩ := Nat.exists_eq_add_of_lt hplaces
  have hsignificand : (y.significand : ℚ) ≤ 2 ^ 53 := by exact_mod_cast hy
  have hone : (1 : ℚ) ≤ 2 ^ extra := one_le_pow₀ (by norm_num)
  rw [value, hextra, div_le_div_iff₀ (by positivity) (by positivity)]
  calc
    (y.significand : ℚ) * 2 ^ places ≤ 2 ^ 53 * 2 ^ places := by gcongr
    _ ≤ 2 ^ 53 * 2 ^ places * 2 ^ extra := le_mul_of_one_le_right (by positivity) hone
    _ = (2 ^ 52 : Nat) * 2 ^ (places + extra + 1) := by
      push_cast
      ring

/-- The number that is found is nearest, unless the quotient lies halfway between two of them. -/
theorem isNearest_nearest {num den : Nat} (hnum : num ≠ 0) (hden : den ≠ 0)
    (hfits : Nat.log2 num ≤ 52 + Nat.log2 den)
    (hties : 2 * (num * 2 ^ placesFor num den % den) ≠ den) :
    (nearest num den).IsNearest (num / den) := by
  have hden' : 0 < den := Nat.pos_of_ne_zero hden
  obtain ⟨hlow, hhigh⟩ := placesFor_bounds hnum hden hfits
  have hnearest : nearest num den =
      ⟨roundHalfEven (num * 2 ^ placesFor num den) den, placesFor num den⟩ := rfl
  rw [hnearest]
  generalize placesFor num den = places at hties hlow hhigh ⊢
  have hstrict : ∀ m : Nat, m ≠ roundHalfEven (num * 2 ^ places) den ->
      |(roundHalfEven (num * 2 ^ places) den : ℚ) / 2 ^ places - num / den| <
        |(m : ℚ) / 2 ^ places - num / den| := by
    intro m hm
    rw [abs_sub_div_scaled, abs_sub_div_scaled]
    have hnearer := roundHalfEven_nearer hden' hties hm
    gcongr
  have hnear := (roundHalfEven_near (num * 2 ^ places) hden').2
  generalize roundHalfEven (num * 2 ^ places) den = significand at hstrict hnear ⊢
  constructor
  · by_contra hlong
    have hscaled : den * (2 ^ 53 + 1) ≤ den * significand :=
      Nat.mul_le_mul_left den (Nat.lt_of_not_le hlong)
    rw [Nat.mul_add] at hscaled
    omega
  · intro y hy hvalue
    by_cases hplaces : y.places ≤ places
    · obtain ⟨m, hm⟩ := value_of_places_le hplaces
      rw [hm]
      rw [hm] at hvalue
      refine hstrict m fun hsame => hvalue ?_
      rw [hsame]
      rfl
    · have hsmall := value_le_of_lt_places (Nat.lt_of_not_le hplaces) hy
      have hbelow : ((2 ^ 52 : Nat) : ℚ) / 2 ^ places ≤ num / den := by
        rw [div_le_div_iff₀ (by positivity) (by exact_mod_cast hden'), mul_comm]
        exact_mod_cast hlow
      have hbelow' : |((2 ^ 52 : Nat) : ℚ) / 2 ^ places - num / den| =
          num / den - (2 ^ 52 : Nat) / 2 ^ places := by
        rw [abs_sub_comm, abs_of_nonneg (by linarith)]
      have hy' : |y.value - num / den| = num / den - y.value := by
        rw [abs_sub_comm, abs_of_nonneg (by linarith)]
      rw [hy']
      -- Between the two lies the least number that still has the full fifty-three bits.
      by_cases hleast : 2 ^ 52 = significand
      · have hless : y.value < significand / 2 ^ places := by
          rw [← hleast]
          exact lt_of_le_of_ne hsmall fun hsame => hvalue (by rw [hsame, hleast]; rfl)
        rw [← hleast] at hless ⊢
        exact lt_of_eq_of_lt hbelow' (by linarith)
      · have hless := hstrict (2 ^ 52) hleast
        rw [hbelow'] at hless
        exact lt_of_lt_of_le hless (by linarith)

end Binary

end DisplayInventory.Decimal
