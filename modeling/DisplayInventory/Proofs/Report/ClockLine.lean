import DisplayInventory.Proofs.Decimal.Nearest
import DisplayInventory.Report.ModeBlock

/-!
# The clock in the debug style

The debug style shows a clock, known in thousandths, with two decimal places.  The number shown
never is further from the clock than one half of a hundredth, because the first rounding moves the
clock by much less than a thousandth; and where the clock lies halfway between two hundredths, the
first rounding is exact for one clock out of twenty-five only.
-/

namespace DisplayInventory

namespace Decimal

/-! ## Two roundings -/

theorem isNearest_thousandths {c : Nat} (hc : c < 2 ^ 32) :
    (Binary.nearest c 1000).IsNearest (c / 1000) := by
  by_cases hzero : c = 0
  · subst hzero
    have hnearest : (Binary.nearest 0 1000).value = 0 := by
      rw [show Binary.nearest 0 1000 = ⟨0, 62⟩ by decide, Binary.value]
      norm_num
    refine ⟨by decide, fun y _ hvalue => ?_⟩
    rw [hnearest] at hvalue ⊢
    simpa using hvalue
  · have hlog : Nat.log2 c ≤ 31 := Nat.le_of_lt_succ ((Nat.log2_lt hzero).mpr hc)
    have hplaces := Binary.thirty_le_placesFor hzero hc
    have hties : 2 * (c * 2 ^ Binary.placesFor c 1000 % 1000) ≠ 1000 := by
      obtain ⟨extra, hextra⟩ := Nat.exists_eq_add_of_le hplaces
      have height : c * 2 ^ Binary.placesFor c 1000 = 8 * (c * 2 ^ extra * 2 ^ 27) := by
        rw [hextra]
        ring
      rw [height]
      omega
    have hnearest := Binary.isNearest_nearest hzero (by decide) (by omega) hties
    rwa [Nat.cast_ofNat] at hnearest

theorem isRounded_hundredths (c : Nat) :
    IsRounded (hundredths c) (100 * (Binary.nearest c 1000).value) := by
  have hden : 0 < 2 ^ (Binary.nearest c 1000).places := Nat.two_pow_pos _
  have hround := isRounded_roundHalfEven ((Binary.nearest c 1000).significand * 100) hden
  have hscaled : (((Binary.nearest c 1000).significand * 100 : Nat) : ℚ) /
      (2 ^ (Binary.nearest c 1000).places : Nat) = 100 * (Binary.nearest c 1000).value := by
    rw [Binary.value]
    push_cast
    ring
  rw [hscaled] at hround
  exact hround

section Bounds

variable {c n : Nat} {x : Binary}

/-- The first rounding moves a clock by less than a millionth of a thousandth. -/
theorem abs_value_sub_lt (hc : c < 2 ^ 32) (hx : x.IsNearest (c / 1000)) :
    |x.value - c / 1000| < 1 / 2 ^ 20 := by
  have hfloor : c * 2 ^ 20 / 1000 ≤ 2 ^ 53 := by omega
  have hclose : |(⟨c * 2 ^ 20 / 1000, 20⟩ : Binary).value - c / 1000| < 1 / 2 ^ 20 := by
    have hlow : 1000 * (c * 2 ^ 20 / 1000) ≤ c * 2 ^ 20 := Nat.mul_div_le _ _
    have hhigh : c * 2 ^ 20 < 1000 * (c * 2 ^ 20 / 1000) + 1000 := by omega
    have hlow' : (1000 * (c * 2 ^ 20 / 1000 : Nat) : ℚ) ≤ c * 2 ^ 20 := by exact_mod_cast hlow
    have hhigh' : (c * 2 ^ 20 : ℚ) < 1000 * (c * 2 ^ 20 / 1000 : Nat) + 1000 := by
      exact_mod_cast hhigh
    rw [Binary.value, abs_lt]
    dsimp only
    constructor <;> linarith
  exact lt_of_le_of_lt (hx.le hfloor) hclose

theorem near_of_rounded (hc : c < 2 ^ 32) (hx : x.IsNearest (c / 1000))
    (hn : IsRounded n (100 * x.value)) : 10 * n ≤ c + 5 ∧ c ≤ 10 * n + 5 := by
  obtain ⟨hlow, hhigh⟩ := abs_lt.mp (abs_value_sub_lt hc hx)
  obtain ⟨hlow', hhigh'⟩ := abs_le.mp hn.near
  constructor
  · have hless : (10 * n : ℚ) < c + 6 := by linarith
    have hless' : 10 * n < c + 6 := by exact_mod_cast hless
    omega
  · have hless : (c : ℚ) < 10 * n + 6 := by linarith
    have hless' : c < 10 * n + 6 := by exact_mod_cast hless
    omega

/-- A clock that is an odd number of eighths is told exactly by the first rounding. -/
theorem value_of_eighths (hc : c < 2 ^ 32) (hx : x.IsNearest (c / 1000)) (heighths : 125 ∣ c) :
    x.value = c / 1000 := by
  obtain ⟨m, rfl⟩ := heighths
  have hvalue : (⟨m, 3⟩ : Binary).value = (125 * m : Nat) / 1000 := by
    rw [Binary.value]
    push_cast
    ring
  have hdistance := hx.le (y := ⟨m, 3⟩) (by dsimp only; omega)
  rw [hvalue, sub_self, abs_zero] at hdistance
  exact sub_eq_zero.mp (abs_nonpos_iff.mp hdistance)

/-- Between two hundredths the first rounding leaves those clocks only that are odd eighths. -/
theorem exact_tie_iff (hc : c < 2 ^ 32) (hx : x.IsNearest (c / 1000)) :
    (∃ k : Nat, 100 * x.value = k + 1 / 2) ↔
      c % 1000 = 125 ∨ c % 1000 = 375 ∨ c % 1000 = 625 ∨ c % 1000 = 875 := by
  constructor
  · rintro ⟨k, hk⟩
    obtain ⟨hlow, hhigh⟩ := abs_lt.mp (abs_value_sub_lt hc hx)
    have hclock : c = 5 * (2 * k + 1) := by
      have hless : (c : ℚ) < 5 * (2 * k + 1) + 1 := by linarith
      have hless' : (5 * (2 * k + 1) : ℚ) < c + 1 := by linarith
      have hnat : c < 5 * (2 * k + 1) + 1 := by exact_mod_cast hless
      have hnat' : 5 * (2 * k + 1) < c + 1 := by exact_mod_cast hless'
      omega
    have hscaled : 200 * x.significand = (2 * k + 1) * 2 ^ x.places := by
      have hpos : (0 : ℚ) < 2 ^ x.places := by positivity
      rw [Binary.value, mul_div_assoc', div_eq_iff hpos.ne'] at hk
      have hrat : (200 * x.significand : ℚ) = (2 * k + 1) * 2 ^ x.places := by linarith
      exact_mod_cast hrat
    have hdvd : 25 ∣ 2 * k + 1 := by
      have hproduct : 25 ∣ (2 * k + 1) * 2 ^ x.places := by
        rw [← hscaled]
        exact Dvd.intro (8 * x.significand) (by ring)
      exact (Nat.Coprime.pow_right x.places (by decide)).dvd_of_dvd_mul_right hproduct
    omega
  · intro hmod
    rw [value_of_eighths hc hx (by omega)]
    refine ⟨c / 10, ?_⟩
    have hsplit : c = 10 * (c / 10) + 5 := by omega
    have hrat : (c : ℚ) = 10 * (c / 10 : Nat) + 5 := by exact_mod_cast hsplit
    linarith

/-- Of two hundredths that are equally near the even one is shown. -/
theorem even_of_exact_tie (hx : x.IsNearest (c / 1000)) (hc : c < 2 ^ 32)
    (hn : IsRounded n (100 * x.value))
    (htie : c % 1000 = 125 ∨ c % 1000 = 375 ∨ c % 1000 = 625 ∨ c % 1000 = 875) :
    n % 2 = 0 := by
  obtain ⟨hlow, hhigh⟩ := near_of_rounded hc hx hn
  refine hn.even ?_
  rw [value_of_eighths hc hx (by omega), abs_eq (by norm_num)]
  have hsides : 10 * n = c + 5 ∨ 10 * n + 5 = c := by omega
  rcases hsides with habove | hbelow
  · have hrat : (10 * n : ℚ) = c + 5 := by exact_mod_cast habove
    exact .inl (by linarith)
  · have hrat : (10 * n + 5 : ℚ) = c := by exact_mod_cast hbelow
    exact .inr (by linarith)

end Bounds

/-! ## Two decimal places in writing -/

/--
Whether a text is a number of hundredths in writing: a whole part without superfluous zeros, a point
and two more digits, which with the whole part are the digits of the number.
-/
def IsWritten (n : Nat) (text : String) : Prop :=
  ∃ (whole : List Char) (tenth hundredth : Char),
    text = String.ofList (whole ++ ['.', tenth, hundredth]) ∧
      (∀ c ∈ whole ++ [tenth, hundredth], c.isDigit = true) ∧
      whole ≠ [] ∧ (whole.head? = some '0' -> whole = ['0']) ∧
      Nat.ofDigitChars 10 (whole ++ [tenth, hundredth]) 0 = n

/-- Only the number zero begins with the digit zero. -/
theorem eq_zero_of_head?_toDigits {n : Nat} (hhead : (Nat.toDigits 10 n).head? = some '0') :
    n = 0 := by
  induction n using Nat.strongRecOn with
  | ind n ih =>
      by_cases hsmall : n < 10
      · have hall : ∀ n < 10, Nat.digitChar n = '0' -> n = 0 := by decide
        rw [Nat.toDigits_of_lt_base hsmall] at hhead
        exact hall n hsmall (Option.some.inj hhead)
      · have hlarge : 10 ≤ n := Nat.le_of_not_lt hsmall
        have hnonempty : Nat.toDigits 10 (n / 10) ≠ [] := Nat.toDigits_ne_nil
        rw [Nat.toDigits_of_base_le (by decide) hlarge,
          List.head?_append_of_ne_nil _ hnonempty] at hhead
        have hquotient := ih (n / 10) (by omega) hhead
        omega

theorem decimal_of_lt {n : Nat} (hn : n < 10) :
    Text.decimal n = String.ofList [Nat.digitChar n] := by
  rw [Text.decimal, Nat.repr, Nat.toDigits_of_lt_base hn]

theorem isWritten_showHundredths (n : Nat) : IsWritten n (showHundredths n) := by
  have hdigit : ∀ m < 10, (Nat.digitChar m).isDigit = true := by decide
  have hvalue : ∀ m < 10, (Nat.digitChar m).toNat - '0'.toNat = m := by decide
  have htenth : n % 100 / 10 < 10 := by omega
  have hhundredth : n % 10 < 10 := by omega
  refine ⟨Nat.toDigits 10 (n / 100), Nat.digitChar (n % 100 / 10), Nat.digitChar (n % 10),
    ?_, ?_, Nat.toDigits_ne_nil, ?_, ?_⟩
  · have hpoint : "." = String.ofList ['.'] := rfl
    rw [showHundredths, decimal_of_lt htenth, decimal_of_lt hhundredth, Text.decimal, Nat.repr,
      hpoint, ← String.ofList_append, ← String.ofList_append, ← String.ofList_append]
    simp
  · intro c hc
    rcases List.mem_append.mp hc with hwhole | hlast
    · exact Nat.isDigit_of_mem_toDigits (by decide) (by decide) hwhole
    · simp only [List.mem_cons, List.not_mem_nil, or_false] at hlast
      rcases hlast with rfl | rfl
      · exact hdigit _ htenth
      · exact hdigit _ hhundredth
  · intro hhead
    rw [eq_zero_of_head?_toDigits hhead]
    rfl
  · rw [Nat.ofDigitChars_append, Nat.ofDigitChars_ten_toDigits]
    simp only [Nat.ofDigitChars, List.foldl_cons, List.foldl_nil, hvalue _ htenth,
      hvalue _ hhundredth]
    omega

end Decimal

namespace Mode

/--
The clock in the debug style.  The line shows a number of hundredths that is one half away from the
clock at most, and the clock itself exactly if that is a whole number of hundredths.  It is the
number nearest to the double that is nearest to the clock, of two equally near ones the even one;
these are the odd eighths.  A greater clock never shows less.
-/
theorem debug_clock (mode : Mode) (owner : ModeOwner) (options : Options) :
    let c := mode.clock.toNat
    let n := Decimal.hundredths c
    (∃ text, Decimal.IsWritten n text ∧
      mode.lines { options with debugModes := true }.modeStyle owner =
        ["Mode: " ++ mode.name ++ " @ " ++ Text.decimal mode.vrefresh.toNat ++ " Hz, clock: " ++
          text ++ " Mhz, aspect: " ++ Codes.aspectRatio (Codes.aspectRatioOf mode.flags) ++ " " ++
          match owner with
          | .connector encoderId index =>
              "connector " ++ Text.decimal encoderId.toNat ++ " " ++ Text.decimal index.toNat
          | .crtc id => "crtc " ++ Text.decimal id.toNat ++ " 0"]) ∧
      |10 * (n : ℤ) - c| ≤ 5 ∧
      (c % 10 ≠ 5 -> ∀ m : Nat, m ≠ n -> |10 * (n : ℤ) - c| < |10 * (m : ℤ) - c|) ∧
      (10 * n = c ↔ 10 ∣ c) ∧
      (c % 1000 = 125 ∨ c % 1000 = 625 -> 10 * n + 5 = c) ∧
      (c % 1000 = 375 ∨ c % 1000 = 875 -> 10 * n = c + 5) ∧
      (∃ x : Decimal.Binary, x.IsNearest (c / 1000) ∧ Decimal.IsRounded n (100 * x.value) ∧
        ((∃ k : Nat, 100 * x.value = k + 1 / 2) ↔
          c % 1000 = 125 ∨ c % 1000 = 375 ∨ c % 1000 = 625 ∨ c % 1000 = 875)) ∧
      ∀ other : Mode, mode.clock ≤ other.clock -> n ≤ Decimal.hundredths other.clock.toNat := by
  intro c n
  have hc : c < 2 ^ 32 := mode.clock.toNat_lt
  have hx := Decimal.isNearest_thousandths hc
  have hn := Decimal.isRounded_hundredths c
  obtain ⟨hlow, hhigh⟩ := Decimal.near_of_rounded hc hx hn
  have heven := Decimal.even_of_exact_tie hx hc hn
  refine ⟨⟨_, Decimal.isWritten_showHundredths n, by cases owner <;> rfl⟩, ?_, ?_, ?_, ?_, ?_,
    ⟨_, hx, hn, Decimal.exact_tie_iff hc hx⟩, ?_⟩
  · rw [abs_le]
    omega
  · intro hmod m hm
    have hshown := abs_cases (10 * (n : ℤ) - c)
    have hother := abs_cases (10 * (m : ℤ) - c)
    omega
  · omega
  · intro hmod
    have hparity := heven (by omega)
    omega
  · intro hmod
    have hparity := heven (by omega)
    omega
  · intro other hle
    have hle' : c ≤ other.clock.toNat := UInt32.le_iff_toNat_le.mp hle
    have hc' : other.clock.toNat < 2 ^ 32 := other.clock.toNat_lt
    obtain ⟨hlow', hhigh'⟩ := Decimal.near_of_rounded hc' (Decimal.isNearest_thousandths hc')
      (Decimal.isRounded_hundredths other.clock.toNat)
    by_cases hsame : c = other.clock.toNat
    · exact le_of_eq (congrArg Decimal.hundredths hsame)
    · omega

end Mode

end DisplayInventory
