import DisplayInventory.Text.Hex
import DisplayInventory.Text.Layout
import DisplayInventory.Text.Utf8
import Mathlib.Algebra.Group.Nat.Defs

/-!
# Reading a layout back

A layout loses nothing.  A text is known by its bytes, a number by its digits, in base ten and in
base sixteen, a value by its field, bytes by their pairs of digits, and lines by the text that they
make, as long as no line has a line break in it.
-/

namespace DisplayInventory.Text

theorem Utf8.encode_injective {first second : String} (hencode : encode first = encode second) :
    first = second := by
  apply String.toByteArray_inj.mp
  exact ByteArray.ext (Array.toList_inj.mp hencode)

/-! ## Lines -/

def Unbroken (text : String) : Prop :=
  '\n' ∉ text.toList

instance (text : String) : Decidable (Unbroken text) :=
  inferInstanceAs (Decidable ('\n' ∉ text.toList))

theorem unbroken_append {first second : String} :
    Unbroken (first ++ second) ↔ Unbroken first ∧ Unbroken second := by
  simp [Unbroken]

/-- Two texts that end at the first of some mark end at the same place. -/
theorem eq_and_eq_of_append_cons {α : Type} {mark : α} {first second rest rest' : List α}
    (hfirst : mark ∉ first) (hsecond : mark ∉ second)
    (heq : first ++ mark :: rest = second ++ mark :: rest') : first = second ∧ rest = rest' := by
  induction first generalizing second with
  | nil =>
      cases second with
      | nil => exact ⟨rfl, (List.cons.inj heq).2⟩
      | cons head tail =>
          have hmark : mark = head := (List.cons.inj heq).1
          exact absurd (hmark ▸ List.mem_cons_self) hsecond
  | cons head tail ih =>
      cases second with
      | nil =>
          have hmark : head = mark := (List.cons.inj heq).1
          exact absurd (hmark ▸ List.mem_cons_self) hfirst
      | cons head' tail' =>
          obtain ⟨hhead, htail⟩ := List.cons.inj heq
          have hfirst' : mark ∉ tail := fun hmem => hfirst (List.mem_cons_of_mem head hmem)
          have hsecond' : mark ∉ tail' := fun hmem => hsecond (List.mem_cons_of_mem head' hmem)
          obtain ⟨htails, hrest⟩ := ih hfirst' hsecond' htail
          exact ⟨by rw [hhead, htails], hrest⟩

theorem toList_unlines_cons (line : String) (rest : List String) :
    (unlines (line :: rest)).toList = line.toList ++ '\n' :: (unlines rest).toList := by
  rw [unlines_cons, String.toList_append, String.toList_append, List.append_assoc]
  rfl

/-- Lines are known by the text that they make. -/
theorem unlines_inj {first second : List String} (hfirst : ∀ line ∈ first, Unbroken line)
    (hsecond : ∀ line ∈ second, Unbroken line) (heq : unlines first = unlines second) :
    first = second := by
  induction first generalizing second with
  | nil =>
      cases second with
      | nil => rfl
      | cons line rest =>
          have htext := congrArg String.toList heq
          rw [toList_unlines_cons] at htext
          simp at htext
  | cons line rest ih =>
      cases second with
      | nil =>
          have htext := congrArg String.toList heq
          rw [toList_unlines_cons] at htext
          simp at htext
      | cons line' rest' =>
          have htext := congrArg String.toList heq
          rw [toList_unlines_cons, toList_unlines_cons] at htext
          obtain ⟨hline, hrest⟩ := eq_and_eq_of_append_cons (hfirst line List.mem_cons_self)
            (hsecond line' List.mem_cons_self) htext
          have hlater := ih (fun other hother => hfirst other (List.mem_cons_of_mem line hother))
            (fun other hother => hsecond other (List.mem_cons_of_mem line' hother))
            (String.toList_inj.mp hrest)
          rw [String.toList_inj.mp hline, hlater]

/-! ## Blocks of lines -/

/--
Whether the lines of an item tell what there is to tell of it, and where they end, whatever lines
follow.
-/
structure Delimits {α β : Type} (lines : α -> List String) (told : α -> β) : Prop where
  nonempty : ∀ item, lines item ≠ []
  split : ∀ {item item' : α} {rest rest' : List String},
    lines item ++ rest = lines item' ++ rest' -> told item = told item' ∧ rest = rest'

/-- Items are told one after the other; there are as many as are told. -/
theorem Delimits.flatMap_inj {α β : Type} {lines : α -> List String} {told : α -> β}
    (hlines : Delimits lines told) {items items' : List α}
    (heq : items.flatMap lines = items'.flatMap lines) : items.map told = items'.map told := by
  induction items generalizing items' with
  | nil =>
      cases items' with
      | nil => rfl
      | cons item' rest' =>
          rw [List.flatMap_nil, List.flatMap_cons] at heq
          exact absurd (List.append_eq_nil_iff.mp heq.symm).1 (hlines.nonempty item')
  | cons item rest ih =>
      cases items' with
      | nil =>
          rw [List.flatMap_nil, List.flatMap_cons] at heq
          exact absurd (List.append_eq_nil_iff.mp heq).1 (hlines.nonempty item)
      | cons item' rest' =>
          rw [List.flatMap_cons, List.flatMap_cons] at heq
          obtain ⟨htold, hrest⟩ := hlines.split heq
          rw [List.map_cons, List.map_cons, htold, ih hrest]

/-! ## Fields -/

theorem decimal_inj {m n : Nat} (heq : decimal m = decimal n) : m = n := by
  have hdigits : Nat.toDigits 10 m = Nat.toDigits 10 n := by
    simpa [decimal] using congrArg String.toList heq
  calc
    m = Nat.ofDigitChars 10 (Nat.toDigits 10 m) 0 := Nat.ofDigitChars_ten_toDigits.symm
    _ = Nat.ofDigitChars 10 (Nat.toDigits 10 n) 0 := by rw [hdigits]
    _ = n := Nat.ofDigitChars_ten_toDigits

theorem decimal_eq_decimal {m n : Nat} : decimal m = decimal n ↔ m = n :=
  ⟨decimal_inj, congrArg decimal⟩

theorem unbroken_decimal (n : Nat) : Unbroken (decimal n) := by
  intro hbreak
  rw [decimal, Nat.toList_repr] at hbreak
  have hdigit := Nat.isDigit_of_mem_toDigits (by decide) (by decide) hbreak
  exact absurd hdigit (by decide)

theorem field_inj {width : Nat} {label value value' : String}
    (heq : field width label value = field width label value') : value = value' :=
  (String.append_right_inj _).mp heq

theorem field_eq_field {width : Nat} {label value value' : String} :
    field width label value = field width label value' ↔ value = value' :=
  ⟨field_inj, congrArg (field width label)⟩

/-- A field begins as its label does, whatever its value is. -/
theorem field_of_head {width : Nat} {label head : String}
    (hhead : "\t" ++ padRight width label ++ ": " = head) (value : String) :
    field width label value = head ++ value :=
  congrArg (· ++ value) hhead

theorem unbroken_padRight {width : Nat} {text : String} (htext : Unbroken text) :
    Unbroken (padRight width text) := by
  refine unbroken_append.mpr ⟨htext, ?_⟩
  simp [Unbroken]

theorem unbroken_field {width : Nat} {label value : String} (hlabel : Unbroken label)
    (hvalue : Unbroken value) : Unbroken (field width label value) := by
  have hbefore : Unbroken ("\t" ++ padRight width label ++ ": ") :=
    unbroken_append.mpr ⟨unbroken_append.mpr ⟨by decide, unbroken_padRight hlabel⟩, by decide⟩
  exact unbroken_append.mpr ⟨hbefore, hvalue⟩

theorem unbroken_numbered {label : String} (hlabel : Unbroken label) (n : Nat) :
    Unbroken (label ++ decimal n) :=
  unbroken_append.mpr ⟨hlabel, unbroken_decimal n⟩

theorem unbroken_numberField {width : Nat} {label : String} (hlabel : Unbroken label) (n : Nat) :
    Unbroken (field width label (decimal n)) :=
  unbroken_field hlabel (unbroken_decimal n)

/-! ## Hexadecimal digits -/

namespace Hex

def alphabet : List Char :=
  ['0', '1', '2', '3', '4', '5', '6', '7', '8', '9', 'a', 'b', 'c', 'd', 'e', 'f']

theorem digit_mem_alphabet (n : Nat) : digit n ∈ alphabet := by
  have hall : ∀ n < 16, Nat.digitChar n ∈ alphabet := by decide
  exact hall (n % 16) (Nat.mod_lt n (by decide))

theorem value?_digit (n : Nat) : value? (digit n) = some (n % 16) := by
  have hall : ∀ n < 16, value? (Nat.digitChar n) = some n := by decide
  exact hall (n % 16) (Nat.mod_lt n (by decide))

theorem mem_alphabet_of_mem_ofBytes {bytes : List UInt8} {c : Char} (hc : c ∈ ofBytes bytes) :
    c ∈ alphabet := by
  induction bytes with
  | nil => exact absurd hc List.not_mem_nil
  | cons byte rest ih =>
      rcases List.mem_cons.mp hc with rfl | hlater
      · exact digit_mem_alphabet _
      · rcases List.mem_cons.mp hlater with rfl | hrest
        · exact digit_mem_alphabet _
        · exact ih hrest

/-- Bytes are read back from their digits. -/
theorem toBytes?_ofBytes (bytes : List UInt8) : toBytes? (ofBytes bytes) = some bytes := by
  induction bytes with
  | nil => rfl
  | cons byte rest ih =>
      have hbound : byte.toNat < 256 := byte.toNat_lt
      have hbyte : 16 * (byte.toNat / 16 % 16) + byte.toNat % 16 = byte.toNat := by omega
      simp only [ofBytes, toBytes?, value?_digit, ih, hbyte, UInt8.ofNat_toNat]

def upperAlphabet : List Char :=
  ['0', '1', '2', '3', '4', '5', '6', '7', '8', '9', 'A', 'B', 'C', 'D', 'E', 'F']

def number? (digits : List Char) : Option Nat :=
  digits.foldlM (fun n c => (value? c).map (16 * n + ·)) 0

theorem toUpper_digit_mem_upperAlphabet (n : Nat) : (digit n).toUpper ∈ upperAlphabet := by
  have hall : ∀ n < 16, (Nat.digitChar n).toUpper ∈ upperAlphabet := by decide
  exact hall (n % 16) (Nat.mod_lt n (by decide))

theorem value?_toUpper_digit (n : Nat) : value? (digit n).toUpper = some (n % 16) := by
  have hall : ∀ n < 16, value? (Nat.digitChar n).toUpper = some n := by decide
  exact hall (n % 16) (Nat.mod_lt n (by decide))

/-- A number is read back from its padded digits, as far as they reach. -/
theorem number?_toUpper_digits (width n : Nat) :
    number? ((digits width n).map Char.toUpper) = some (n % 16 ^ width) := by
  induction width generalizing n with
  | zero => simp [number?, digits, Nat.mod_one]
  | succ width ih =>
      have hsplit : 16 * (n / 16 % 16 ^ width) + n % 16 = n % 16 ^ (width + 1) := by
        rw [Nat.pow_succ, Nat.mul_comm (16 ^ width), Nat.mod_mul, Nat.add_comm]
      have hdigits := ih (n / 16)
      rw [number?] at hdigits
      rw [number?, digits, List.map_append, List.foldlM_append, hdigits]
      simp [value?_toUpper_digit, hsplit]

theorem mem_upperAlphabet_of_mem_digits {width n : Nat} {c : Char}
    (hc : c ∈ (digits width n).map Char.toUpper) : c ∈ upperAlphabet := by
  induction width generalizing n with
  | zero => exact absurd hc List.not_mem_nil
  | succ width ih =>
      rw [digits, List.map_append] at hc
      rcases List.mem_append.mp hc with hlater | hlast
      · exact ih hlater
      · rw [List.mem_singleton.mp hlast]
        exact toUpper_digit_mem_upperAlphabet n

theorem digitChar_inj {m n : Nat} (hm : m < 16) (hn : n < 16)
    (heq : Nat.digitChar m = Nat.digitChar n) : m = n := by
  have hall : ∀ m < 16, ∀ n < 16, Nat.digitChar m = Nat.digitChar n -> m = n := by decide
  exact hall m hm n hn heq

theorem toDigits_of_lt {n : Nat} (hn : n < 16) : Nat.toDigits 16 n = [Nat.digitChar n] :=
  Nat.toDigits_of_lt_base hn

theorem toDigits_of_le {n : Nat} (hn : 16 ≤ n) :
    Nat.toDigits 16 n = Nat.toDigits 16 (n / 16) ++ [Nat.digitChar (n % 16)] :=
  Nat.toDigits_of_base_le (by decide) hn

theorem two_le_length_toDigits {n : Nat} (hn : 16 ≤ n) : 2 ≤ (Nat.toDigits 16 n).length := by
  have hpos : 0 < (Nat.toDigits 16 (n / 16)).length := Nat.length_toDigits_pos
  rw [toDigits_of_le hn, List.length_append, List.length_singleton]
  omega

/-- Numbers are known by their digits: the last one is the rest, the others are the quotient. -/
theorem toDigits_inj {m n : Nat} (heq : Nat.toDigits 16 m = Nat.toDigits 16 n) : m = n := by
  induction m using Nat.strongRecOn generalizing n with
  | ind m ih =>
      have hlength := congrArg List.length heq
      by_cases hm : m < 16
      · by_cases hn : n < 16
        · rw [toDigits_of_lt hm, toDigits_of_lt hn] at heq
          exact digitChar_inj hm hn (List.cons.inj heq).1
        · have htwo := two_le_length_toDigits (Nat.le_of_not_lt hn)
          rw [toDigits_of_lt hm, List.length_singleton] at hlength
          omega
      · by_cases hn : n < 16
        · have htwo := two_le_length_toDigits (Nat.le_of_not_lt hm)
          rw [toDigits_of_lt hn, List.length_singleton] at hlength
          omega
        · rw [toDigits_of_le (Nat.le_of_not_lt hm), toDigits_of_le (Nat.le_of_not_lt hn)] at heq
          obtain ⟨hquotient, hlast⟩ := List.append_inj' heq rfl
          have hdiv := ih (m / 16) (by omega) hquotient
          have hmod := digitChar_inj (Nat.mod_lt m (by decide)) (Nat.mod_lt n (by decide))
            (List.cons.inj hlast).1
          omega

theorem lower_inj {m n : Nat} (heq : lower m = lower n) : m = n :=
  toDigits_inj (String.ofList_injective heq)

theorem lower_eq_lower {m n : Nat} : lower m = lower n ↔ m = n :=
  ⟨lower_inj, congrArg lower⟩

theorem mem_alphabet_of_mem_toDigits {n : Nat} {c : Char} (hc : c ∈ Nat.toDigits 16 n) :
    c ∈ alphabet := by
  induction n using Nat.strongRecOn with
  | ind n ih =>
      have hall : ∀ n < 16, Nat.digitChar n ∈ alphabet := by decide
      by_cases hsmall : n < 16
      · rw [toDigits_of_lt hsmall] at hc
        rw [List.mem_singleton.mp hc]
        exact hall n hsmall
      · rw [toDigits_of_le (Nat.le_of_not_lt hsmall)] at hc
        rcases List.mem_append.mp hc with hlater | hlast
        · exact ih (n / 16) (by omega) hlater
        · rw [List.mem_singleton.mp hlast]
          exact hall (n % 16) (Nat.mod_lt n (by decide))

theorem not_break_mem_alphabet : '\n' ∉ alphabet := by decide

theorem unbroken_lower (n : Nat) : Unbroken (lower n) := by
  intro hbreak
  rw [lower, String.toList_ofList] at hbreak
  exact not_break_mem_alphabet (mem_alphabet_of_mem_toDigits hbreak)

theorem unbroken_mask {label : String} (hlabel : Unbroken label) (n : Nat) :
    Unbroken (label ++ lower n) :=
  unbroken_append.mpr ⟨hlabel, unbroken_lower n⟩

end Hex

end DisplayInventory.Text
