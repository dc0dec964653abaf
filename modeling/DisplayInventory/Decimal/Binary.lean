import DisplayInventory.Decimal.Rounding

/-!
# Binary fractions of fifty-three bits

A quotient that is carried in a floating-point number of double width is first rounded to
fifty-three significant bits.  `Binary.nearest` gives that number exactly, as a natural number
over a power of two, for quotients below two to the fifty-second power.
-/

namespace DisplayInventory.Decimal

/-- The number `significand / 2 ^ places`. -/
structure Binary where
  significand : Nat
  places : Nat
  deriving DecidableEq

def Binary.precision : Nat := 53

/--
The count of binary places with which `num / den` has exactly `precision` significant bits.  The
two logarithms fix it up to one place, which a comparison settles.
-/
def Binary.placesFor (num den : Nat) : Nat :=
  let places := precision - 1 + Nat.log2 den - Nat.log2 num
  if num * Nat.pow 2 places < den * Nat.pow 2 (precision - 1) then places + 1 else places

/-- The binary fraction nearest to `num / den`, ties going to the even significand. -/
def Binary.nearest (num den : Nat) : Binary :=
  let places := placesFor num den
  ⟨roundHalfEven (num * Nat.pow 2 places) den, places⟩

/-- The value in units of `1 / scale`, rounded to the nearest, ties going to the even one. -/
def Binary.rounded (x : Binary) (scale : Nat) : Nat :=
  roundHalfEven (x.significand * scale) (Nat.pow 2 x.places)

end DisplayInventory.Decimal
