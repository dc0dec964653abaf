import DisplayInventory.Proofs.Text.Utf8
import Mathlib.Algebra.Group.Nat.Defs

/-!
# Cut texts

The bytes of a text may be cut anywhere.  What is decoded of them are the characters that are whole,
and behind these one replacement character, if the cut goes through a character: whatever begins a
character and does not end it is one ill-formed piece.  Nothing but the byte zero is decoded as the
character zero, since the machine only takes bytes by which it can still reach a valid code.
-/

namespace DisplayInventory.Text.Utf8

/-! ## Bytes one after the other -/

/-- What the machine writes for bytes, before it is told whether they end. -/
def written : Option Pending -> List UInt8 -> List Char
  | _, [] => []
  | state, byte :: rest => (step state byte).1 ++ written (step state byte).2 rest

def reached : Option Pending -> List UInt8 -> Option Pending
  | state, [] => state
  | state, byte :: rest => reached (step state byte).2 rest

theorem decodeFrom_append (state : Option Pending) (first second : List UInt8) :
    decodeFrom state (first ++ second) =
      written state first ++ decodeFrom (reached state first) second := by
  induction first generalizing state with
  | nil => rfl
  | cons byte rest ih =>
      rw [List.cons_append, decodeFrom, ih, written, reached, List.append_assoc]

theorem start_ne_idle (byte : UInt8) : start byte ≠ ([], none) := by
  unfold start
  cases opening byte <;> simp

theorem step_ne_idle (state : Option Pending) (byte : UInt8) : step state byte ≠ ([], none) := by
  cases state with
  | none => exact start_ne_idle byte
  | some pending =>
      by_cases hinterval : pending.low ≤ byte ∧ byte ≤ pending.high
      · simp only [step, if_pos hinterval]
        cases pending.more <;> simp
      · simp [step, if_neg hinterval]

theorem decodeFrom_eq_nil {state : Option Pending} {bytes : List UInt8}
    (hnil : decodeFrom state bytes = []) : state = none ∧ bytes = [] := by
  induction bytes generalizing state with
  | nil =>
      cases state with
      | none => exact ⟨rfl, rfl⟩
      | some pending => exact absurd hnil (List.cons_ne_nil _ _)
  | cons byte rest ih =>
      obtain ⟨hstep, hrest⟩ := List.append_eq_nil_iff.mp hnil
      exact absurd (Prod.ext hstep (ih hrest).1) (step_ne_idle state byte)

/-- Bytes that begin a character and do not end it are one ill-formed piece. -/
theorem decodeFrom_of_cut {c : Char} {first second : List UInt8}
    (hsplit : String.utf8EncodeChar c = first ++ second) (hfirst : first ≠ [])
    (hsecond : second ≠ []) : decodeFrom none first = [replacement] := by
  have hwhole : written none first ++ decodeFrom (reached none first) second = [c] := by
    rw [← decodeFrom_append, ← hsplit, ← List.append_nil (String.utf8EncodeChar c),
      decodeFrom_utf8EncodeChar]
    rfl
  have hlater : decodeFrom (reached none first) second ≠ [] :=
    fun hnil => hsecond (decodeFrom_eq_nil hnil).2
  have hnothing : written none first = [] := by
    rcases List.append_eq_singleton_iff.mp hwhole with ⟨hnil, -⟩ | ⟨-, hnil⟩
    · exact hnil
    · exact absurd hnil hlater
  have hfinish : decodeFrom none first = finish (reached none first) := by
    have happend := decodeFrom_append none first []
    rwa [List.append_nil, hnothing, List.nil_append] at happend
  cases hreached : reached none first with
  | none =>
      rw [hreached] at hfinish
      exact absurd (decodeFrom_eq_nil hfinish).2 hfirst
  | some pending => rw [hfinish, hreached, finish]

/-! ## The characters that fit -/

theorem encode_ofList (chars : List Char) :
    encode (String.ofList chars) = chars.flatMap String.utf8EncodeChar := by
  induction chars with
  | nil => rfl
  | cons c rest ih => rw [encode_ofList_cons, ih, List.flatMap_cons]

def size (chars : List Char) : Nat :=
  (chars.flatMap String.utf8EncodeChar).length

theorem size_cons (c : Char) (rest : List Char) :
    size (c :: rest) = (String.utf8EncodeChar c).length + size rest := by
  rw [size, List.flatMap_cons, List.length_append, size]

/-- The first characters that are whole within a number of bytes. -/
def fitting : Nat -> List Char -> List Char
  | _, [] => []
  | room, c :: rest =>
      if (String.utf8EncodeChar c).length ≤ room then
        c :: fitting (room - (String.utf8EncodeChar c).length) rest
      else []

theorem fitting_prefix (room : Nat) (chars : List Char) : fitting room chars <+: chars := by
  fun_induction fitting room chars with
  | case1 => exact List.prefix_rfl
  | case2 room c rest hfits ih => exact (List.prefix_cons_inj c).mpr ih
  | case3 => exact List.nil_prefix

theorem size_fitting_le (room : Nat) (chars : List Char) : size (fitting room chars) ≤ room := by
  fun_induction fitting room chars with
  | case1 => exact Nat.zero_le _
  | case2 room c rest hfits ih =>
      rw [size_cons]
      omega
  | case3 => exact Nat.zero_le _

theorem prefix_fitting {room : Nat} {chars first : List Char} (hfirst : first <+: chars)
    (hsize : size first ≤ room) : first <+: fitting room chars := by
  fun_induction fitting room chars generalizing first with
  | case1 => exact hfirst
  | case2 room c rest hfits ih =>
      rcases List.prefix_cons_iff.mp hfirst with rfl | ⟨later, rfl, hlater⟩
      · exact List.nil_prefix
      · rw [size_cons] at hsize
        exact (List.prefix_cons_inj c).mpr (ih hlater (by omega))
  | case3 room c rest hlong =>
      rcases List.prefix_cons_iff.mp hfirst with rfl | ⟨later, rfl, hlater⟩
      · exact List.nil_prefix
      · rw [size_cons] at hsize
        omega

/-- Of cut bytes the whole characters are decoded, and one piece more if some bytes are left. -/
theorem decodeFrom_take (room : Nat) (chars : List Char) :
    decodeFrom none ((chars.flatMap String.utf8EncodeChar).take room) =
      fitting room chars ++
        if size (fitting room chars) = min room (size chars) then [] else [replacement] := by
  fun_induction fitting room chars with
  | case1 room => simp [decodeFrom, finish, size]
  | case2 room c rest hfits ih =>
      have hsame : (size (c :: fitting (room - (String.utf8EncodeChar c).length) rest) =
          min room (size (c :: rest))) ↔
          size (fitting (room - (String.utf8EncodeChar c).length) rest) =
            min (room - (String.utf8EncodeChar c).length) (size rest) := by
        rw [size_cons, size_cons]
        omega
      rw [List.flatMap_cons, List.take_append, List.take_of_length_le hfits,
        decodeFrom_utf8EncodeChar, ih]
      simp only [hsame, List.cons_append]
  | case3 room c rest hlong =>
      have hbytes := Nat.lt_of_not_le hlong
      rw [List.flatMap_cons, List.take_append_of_le_length (Nat.le_of_lt hbytes)]
      by_cases hroom : room = 0
      · simp [hroom, decodeFrom, finish, size]
      · have hfirst : (String.utf8EncodeChar c).take room ≠ [] := fun hnil =>
          (List.take_eq_nil_iff.mp hnil).elim hroom String.utf8EncodeChar_ne_nil
        have hsecond : (String.utf8EncodeChar c).drop room ≠ [] := fun hnil =>
          hlong (List.drop_eq_nil_iff.mp hnil)
        have hshort : ¬size [] = min room (size (c :: rest)) := by
          rw [size_cons, size, List.flatMap_nil, List.length_nil]
          omega
        rw [decodeFrom_of_cut (List.take_append_drop room _).symm hfirst hsecond, if_neg hshort]
        rfl

/-! ## The character zero -/

theorem zero_ne_ofNat {n : Nat} (hn : n % 256 ≠ 0) : 0 ≠ UInt8.ofNat n := by
  intro hzero
  have hnat := congrArg UInt8.toNat hzero
  rw [UInt8.toNat_ofNat'] at hnat
  exact hn hnat.symm

theorem zero_not_mem_utf8EncodeChar {c : Char} (hc : c ≠ '\x00') :
    0 ∉ String.utf8EncodeChar c := by
  have hpos : c.val.toNat ≠ 0 := by
    intro hzero
    have hchar : Char.ofNat c.val.toNat = c := Char.ofNat_toNat c
    rw [hzero] at hchar
    exact hc hchar.symm
  unfold String.utf8EncodeChar
  dsimp only
  generalize c.val.toNat = code at hpos
  split
  · simp only [List.mem_cons, not_or]
    exact ⟨zero_ne_ofNat (by omega), List.not_mem_nil⟩
  split
  · simp only [List.mem_cons, not_or]
    exact ⟨zero_ne_ofNat (by omega), zero_ne_ofNat (by omega), List.not_mem_nil⟩
  split
  · simp only [List.mem_cons, not_or]
    exact ⟨zero_ne_ofNat (by omega), zero_ne_ofNat (by omega), zero_ne_ofNat (by omega),
      List.not_mem_nil⟩
  · simp only [List.mem_cons, not_or]
    exact ⟨zero_ne_ofNat (by omega), zero_ne_ofNat (by omega), zero_ne_ofNat (by omega),
      zero_ne_ofNat (by omega), List.not_mem_nil⟩

def Pending.least (pending : Pending) : Nat :=
  (pending.bits * 64 + pending.low.toNat % 64) * 64 ^ pending.more

/-- The first code that is past all that can still be reached. -/
def Pending.bound (pending : Pending) : Nat :=
  (pending.bits * 64 + pending.high.toNat % 64 + 1) * 64 ^ pending.more

/-- Whether only valid codes can be reached, and not the code zero. -/
def Pending.Sound (pending : Pending) : Prop :=
  (0x80 ≤ pending.low ∧ pending.high ≤ 0xBF) ∧ 0 < pending.least ∧
    (pending.bound ≤ 0xD800 ∨ 0xE000 ≤ pending.least ∧ pending.bound ≤ 0x110000)

instance (pending : Pending) : Decidable pending.Sound :=
  inferInstanceAs (Decidable (_ ∧ _ ∧ _))

theorem start_sound {byte : UInt8} (hbyte : byte ≠ 0) :
    '\x00' ∉ (start byte).1 ∧ ∀ pending ∈ (start byte).2, pending.Sound := by
  have hall : ∀ code < 256, code ≠ 0 ->
      '\x00' ∉ (start (UInt8.ofNat code)).1 ∧
        ∀ pending ∈ (start (UInt8.ofNat code)).2, pending.Sound := by
    decide +kernel
  have hcode : byte.toNat ≠ 0 := fun hzero => hbyte (UInt8.toNat_inj.mp hzero)
  have hstart := hall byte.toNat byte.toNat_lt hcode
  rwa [UInt8.ofNat_toNat] at hstart

theorem ofNat_ne_zero {code : Nat} (hpos : 0 < code)
    (hvalid : code < 0xD800 ∨ 0xDFFF < code ∧ code < 0x110000) : Char.ofNat code ≠ '\x00' := by
  intro hzero
  have hcode := congrArg Char.toNat hzero
  rw [Char.ofNat, dif_pos hvalid] at hcode
  exact absurd hcode (Nat.ne_of_gt hpos)

theorem Pending.least_widest (more bits : Nat) :
    Pending.least ⟨more, 0x80, 0xBF, bits⟩ = bits * 64 ^ (more + 1) := by
  have hdigit : (0x80 : UInt8).toNat % 64 = 0 := by decide
  rw [Pending.least, hdigit, Nat.add_zero, Nat.mul_assoc, Nat.pow_succ']

theorem Pending.bound_widest (more bits : Nat) :
    Pending.bound ⟨more, 0x80, 0xBF, bits⟩ = (bits + 1) * 64 ^ (more + 1) := by
  have hdigit : (0xBF : UInt8).toNat % 64 = 63 := by decide
  have hcarry : bits * 64 + 63 + 1 = (bits + 1) * 64 := by omega
  rw [Pending.bound, hdigit, hcarry, Nat.mul_assoc, Nat.pow_succ']

/-- The codes that can be reached behind one more byte could be reached before it. -/
theorem Pending.Sound.taken {more : Nat} {low high byte : UInt8} {bits : Nat}
    (hsound : Pending.Sound ⟨more, low, high, bits⟩) (hinterval : low ≤ byte ∧ byte ≤ high) :
    Pending.least ⟨more, low, high, bits⟩ ≤ (bits * 64 + byte.toNat % 64) * 64 ^ more ∧
      (bits * 64 + byte.toNat % 64 + 1) * 64 ^ more ≤ Pending.bound ⟨more, low, high, bits⟩ := by
  have hlow : 0x80 ≤ low.toNat := UInt8.le_iff_toNat_le.mp hsound.1.1
  have hhigh : high.toNat ≤ 0xBF := UInt8.le_iff_toNat_le.mp hsound.1.2
  have hbyteLow : low.toNat ≤ byte.toNat := UInt8.le_iff_toNat_le.mp hinterval.1
  have hbyteHigh : byte.toNat ≤ high.toNat := UInt8.le_iff_toNat_le.mp hinterval.2
  have hleast : bits * 64 + low.toNat % 64 ≤ bits * 64 + byte.toNat % 64 := by omega
  have hbound : bits * 64 + byte.toNat % 64 + 1 ≤ bits * 64 + high.toNat % 64 + 1 := by omega
  exact ⟨Nat.mul_le_mul_right _ hleast, Nat.mul_le_mul_right _ hbound⟩

theorem step_sound {state : Option Pending} (hstate : ∀ pending ∈ state, pending.Sound)
    {byte : UInt8} (hbyte : byte ≠ 0) :
    '\x00' ∉ (step state byte).1 ∧ ∀ pending ∈ (step state byte).2, pending.Sound := by
  cases state with
  | none => exact start_sound hbyte
  | some pending =>
      obtain ⟨more, low, high, bits⟩ := pending
      have hsound := hstate _ rfl
      by_cases hinterval : low ≤ byte ∧ byte ≤ high
      · obtain ⟨hleast, hbound⟩ := hsound.taken hinterval
        obtain ⟨-, hpos, hvalid⟩ := hsound
        rw [step_of_mem_interval more bits hinterval]
        cases more with
        | zero =>
            have hchar : Char.ofNat (bits * 64 + byte.toNat % 64) ≠ '\x00' := by
              rw [Nat.pow_zero, Nat.mul_one] at hleast hbound
              exact ofNat_ne_zero (by omega) (by omega)
            exact ⟨fun hmem => hchar (List.mem_singleton.mp hmem).symm, nofun⟩
        | succ more =>
            refine ⟨List.not_mem_nil, fun pending hpending => ?_⟩
            cases hpending
            refine ⟨⟨UInt8.le_refl _, UInt8.le_refl _⟩, ?_⟩
            rw [Pending.least_widest, Pending.bound_widest]
            exact ⟨by omega, by omega⟩
      · obtain ⟨hwritten, hafter⟩ := start_sound hbyte
        rw [step, if_neg hinterval]
        exact ⟨List.not_mem_cons_of_ne_of_not_mem (by decide) hwritten, hafter⟩

theorem zero_not_mem_decodeFrom {state : Option Pending}
    (hstate : ∀ pending ∈ state, pending.Sound) {bytes : List UInt8} (hbytes : 0 ∉ bytes) :
    '\x00' ∉ decodeFrom state bytes := by
  induction bytes generalizing state with
  | nil => cases state <;> simp [decodeFrom, finish, replacement]
  | cons byte rest ih =>
      obtain ⟨hbyte, hrest⟩ := List.ne_and_not_mem_of_not_mem_cons hbytes
      obtain ⟨hwritten, hafter⟩ := step_sound hstate hbyte.symm
      rw [decodeFrom]
      exact List.not_mem_append hwritten (ih hafter hrest)

theorem zero_not_mem_decode {bytes : List UInt8} (hbytes : 0 ∉ bytes) :
    '\x00' ∉ (decode bytes).toList := by
  have hnone : ∀ pending ∈ (none : Option Pending), pending.Sound :=
    fun pending hpending => absurd hpending (Option.not_mem_none pending)
  rw [decode, String.toList_ofList]
  exact zero_not_mem_decodeFrom hnone hbytes

end DisplayInventory.Text.Utf8
