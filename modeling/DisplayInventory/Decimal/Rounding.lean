/-!
# Rounding a quotient

Rounding of a quotient of natural numbers to the nearest natural number, where a quotient halfway
between two goes to the even one.
-/

namespace DisplayInventory.Decimal

/-- The natural number nearest to `num / den`, of two equally near ones the even one. -/
def roundHalfEven (num den : Nat) : Nat :=
  let floor := num / den
  let twice := 2 * (num % den)
  if twice < den then floor
  else if den < twice then floor + 1
  else if floor % 2 = 0 then floor
  else floor + 1

/-- Rounding moves a quotient by at most one half. -/
theorem roundHalfEven_near (num : Nat) {den : Nat} (hden : 0 < den) :
    2 * num <= 2 * (den * roundHalfEven num den) + den ∧
      2 * (den * roundHalfEven num den) <= 2 * num + den := by
  have hsplit := Nat.div_add_mod num den
  have hlt := Nat.mod_lt num hden
  simp only [roundHalfEven]
  split
  · omega
  · split
    · rw [Nat.mul_add]
      omega
    · split
      · omega
      · rw [Nat.mul_add]
        omega

end DisplayInventory.Decimal
