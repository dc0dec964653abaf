import DisplayInventory.Text.Utf8

/-!
# Texts survive their bytes

To decode the bytes of a text gives the text back: within the bytes of one character the machine
takes every byte and never rests, and behind the last of them it writes the character.  Characters
are cut into six bits for every byte but the first, so the cases are the numbers of bytes.
-/

namespace DisplayInventory.Text.Utf8

/-! ## First bytes -/

theorem start_single {code : Nat} (hcode : code < 128) :
    start (UInt8.ofNat code) = ([Char.ofNat code], none) := by
  have hall : ∀ code < 128, start (UInt8.ofNat code) = ([Char.ofNat code], none) := by
    decide
  exact hall code hcode

theorem start_of_two {lead : Nat} (hlow : 2 ≤ lead) (hhigh : lead < 32) :
    start (UInt8.ofNat (lead + 192)) = ([], some ⟨0, 0x80, 0xBF, lead⟩) := by
  have hall : ∀ lead < 32, 2 ≤ lead ->
      start (UInt8.ofNat (lead + 192)) = ([], some ⟨0, 0x80, 0xBF, lead⟩) := by
    decide
  exact hall lead hhigh hlow

/-- No overlong form follows the least first byte of three, and no surrogate the one for `D`. -/
theorem start_of_three {lead : Nat} (hlead : lead < 16) :
    start (UInt8.ofNat (lead + 224)) =
      ([], some ⟨1, if lead = 0 then 0xA0 else 0x80, if lead = 13 then 0x9F else 0xBF, lead⟩) := by
  have hall : ∀ lead < 16, start (UInt8.ofNat (lead + 224)) =
      ([], some ⟨1, if lead = 0 then 0xA0 else 0x80, if lead = 13 then 0x9F else 0xBF, lead⟩) := by
    decide
  exact hall lead hlead

/-- No overlong form follows the least first byte of four, and nothing too great the last one. -/
theorem start_of_four {lead : Nat} (hlead : lead < 5) :
    start (UInt8.ofNat (lead + 240)) =
      ([], some ⟨2, if lead = 0 then 0x90 else 0x80, if lead = 4 then 0x8F else 0xBF, lead⟩) := by
  have hall : ∀ lead < 5, start (UInt8.ofNat (lead + 240)) =
      ([], some ⟨2, if lead = 0 then 0x90 else 0x80, if lead = 4 then 0x8F else 0xBF, lead⟩) := by
    decide
  exact hall lead hlead

/-! ## Later bytes -/

theorem toNat_tail {tail : Nat} (htail : tail < 64) :
    (UInt8.ofNat (tail + 128)).toNat = tail + 128 := by
  rw [UInt8.toNat_ofNat']
  omega

/-- A byte in the interval is taken. -/
theorem step_of_mem_interval (more : Nat) {low high byte : UInt8} (bits : Nat)
    (hinterval : low ≤ byte ∧ byte ≤ high) :
    step (some ⟨more, low, high, bits⟩) byte =
      match more with
      | 0 => ([Char.ofNat (bits * 64 + byte.toNat % 64)], none)
      | more + 1 => ([], some ⟨more, 0x80, 0xBF, bits * 64 + byte.toNat % 64⟩) := by
  cases more <;> exact if_pos hinterval

theorem step_tail (more : Nat) {low high : UInt8} (bits : Nat) {tail : Nat} (htail : tail < 64)
    (hinterval : low.toNat ≤ tail + 128 ∧ tail + 128 ≤ high.toNat) :
    step (some ⟨more, low, high, bits⟩) (UInt8.ofNat (tail + 128)) =
      match more with
      | 0 => ([Char.ofNat (bits * 64 + tail)], none)
      | more + 1 => ([], some ⟨more, 0x80, 0xBF, bits * 64 + tail⟩) := by
  have hbyte := toNat_tail htail
  have hbits : (tail + 128) % 64 = tail := by omega
  rw [← hbyte, ← UInt8.le_iff_toNat_le, ← UInt8.le_iff_toNat_le] at hinterval
  rw [step_of_mem_interval more bits hinterval, hbyte, hbits]

theorem decodeFrom_last {low high : UInt8} {bits tail : Nat} (htail : tail < 64)
    (hinterval : low.toNat ≤ tail + 128 ∧ tail + 128 ≤ high.toNat) (rest : List UInt8) :
    decodeFrom (some ⟨0, low, high, bits⟩) (UInt8.ofNat (tail + 128) :: rest) =
      Char.ofNat (bits * 64 + tail) :: decodeFrom none rest := by
  rw [decodeFrom, step_tail 0 bits htail hinterval]
  rfl

theorem decodeFrom_inner {more : Nat} {low high : UInt8} {bits tail : Nat} (htail : tail < 64)
    (hinterval : low.toNat ≤ tail + 128 ∧ tail + 128 ≤ high.toNat) (rest : List UInt8) :
    decodeFrom (some ⟨more + 1, low, high, bits⟩) (UInt8.ofNat (tail + 128) :: rest) =
      decodeFrom (some ⟨more, 0x80, 0xBF, bits * 64 + tail⟩) rest := by
  rw [decodeFrom, step_tail (more + 1) bits htail hinterval]
  rfl

/-- The interval that is not narrowed has room for every later byte. -/
theorem mem_widest {tail : Nat} (htail : tail < 64) :
    (0x80 : UInt8).toNat ≤ tail + 128 ∧ tail + 128 ≤ (0xBF : UInt8).toNat := by
  change 128 ≤ tail + 128 ∧ tail + 128 ≤ 191
  omega

/-! ## Characters -/

theorem decodeFrom_of_start {byte : UInt8} {pending : Pending}
    (hstart : start byte = ([], some pending)) (rest : List UInt8) :
    decodeFrom none (byte :: rest) = decodeFrom (some pending) rest := by
  rw [decodeFrom, step, hstart]
  rfl

theorem decodeFrom_one {code : Nat} (hcode : code ≤ 127) (rest : List UInt8) :
    decodeFrom none (UInt8.ofNat code :: rest) = Char.ofNat code :: decodeFrom none rest := by
  rw [decodeFrom, step, start_single (by omega)]
  rfl

theorem decodeFrom_two {code : Nat} (hlow : 127 < code) (hhigh : code ≤ 2047)
    (rest : List UInt8) :
    decodeFrom none
        (UInt8.ofNat (code / 64 % 32 + 192) :: UInt8.ofNat (code % 64 + 128) :: rest) =
      Char.ofNat code :: decodeFrom none rest := by
  have hlead : 2 ≤ code / 64 % 32 := by omega
  have hcode : code / 64 % 32 * 64 + code % 64 = code := by omega
  rw [decodeFrom_of_start (start_of_two hlead (by omega)),
    decodeFrom_last (by omega) (mem_widest (by omega)), hcode]

theorem decodeFrom_three {code : Nat} (hlow : 2047 < code) (hhigh : code ≤ 65535)
    (hvalid : code < 0xD800 ∨ 0xDFFF < code) (rest : List UInt8) :
    decodeFrom none
        (UInt8.ofNat (code / 4096 % 16 + 224) :: UInt8.ofNat (code / 64 % 64 + 128) ::
          UInt8.ofNat (code % 64 + 128) :: rest) =
      Char.ofNat code :: decodeFrom none rest := by
  have hcode : (code / 4096 % 16 * 64 + code / 64 % 64) * 64 + code % 64 = code := by omega
  rw [decodeFrom_of_start (start_of_three (by omega)), decodeFrom_inner (by omega) ⟨?low, ?high⟩,
    decodeFrom_last (by omega) (mem_widest (by omega)), hcode]
  case low =>
    split
    · change 160 ≤ _
      omega
    · exact Nat.le_add_left _ _
  case high =>
    split
    · change _ ≤ 159
      omega
    · change _ ≤ 191
      omega

theorem decodeFrom_four {code : Nat} (hlow : 65535 < code) (hhigh : code < 0x110000)
    (rest : List UInt8) :
    decodeFrom none
        (UInt8.ofNat (code / 262144 % 8 + 240) :: UInt8.ofNat (code / 4096 % 64 + 128) ::
          UInt8.ofNat (code / 64 % 64 + 128) :: UInt8.ofNat (code % 64 + 128) :: rest) =
      Char.ofNat code :: decodeFrom none rest := by
  have hcode : ((code / 262144 % 8 * 64 + code / 4096 % 64) * 64 + code / 64 % 64) * 64 +
      code % 64 = code := by omega
  rw [decodeFrom_of_start (start_of_four (by omega)), decodeFrom_inner (by omega) ⟨?low, ?high⟩,
    decodeFrom_inner (by omega) (mem_widest (by omega)),
    decodeFrom_last (by omega) (mem_widest (by omega)), hcode]
  case low =>
    split
    · change 144 ≤ _
      omega
    · exact Nat.le_add_left _ _
  case high =>
    split
    · change _ ≤ 143
      omega
    · change _ ≤ 191
      omega

/-- The machine writes an encoded character, and rests behind it. -/
theorem decodeFrom_utf8EncodeChar (c : Char) (rest : List UInt8) :
    decodeFrom none (String.utf8EncodeChar c ++ rest) = c :: decodeFrom none rest := by
  have hvalid : c.val.toNat < 0xD800 ∨ 0xDFFF < c.val.toNat ∧ c.val.toNat < 0x110000 := c.valid
  have hchar : Char.ofNat c.val.toNat = c := Char.ofNat_toNat c
  unfold String.utf8EncodeChar
  dsimp only
  generalize c.val.toNat = code at hvalid hchar
  rw [← hchar]
  split
  · next hone => exact decodeFrom_one hone rest
  split
  · next htwo => exact decodeFrom_two (by omega) htwo rest
  split
  · next hthree => exact decodeFrom_three (by omega) hthree (by omega) rest
  · exact decodeFrom_four (by omega) (by omega) rest

theorem decode_encode (text : String) : decode (encode text) = text := by
  have hchars : ∀ chars : List Char,
      decodeFrom none (encode (String.ofList chars)) = chars := by
    intro chars
    induction chars with
    | nil => rfl
    | cons c rest ih => rw [encode_ofList_cons, decodeFrom_utf8EncodeChar, ih]
  have htext := hchars text.toList
  rw [String.ofList_toList] at htext
  rw [decode, htext, String.ofList_toList]

end DisplayInventory.Text.Utf8
