/-!
# Hexadecimal text

Numbers and bytes in base sixteen.  `ofBytes` and `toBytes?` are inverse to each other: every byte
takes exactly two lower case digits, and only complete pairs of digits are read back.
-/

namespace DisplayInventory.Text.Hex

def digit (n : Nat) : Char :=
  Nat.digitChar (n % 16)

/-- The last `width` digits of `n`, padded with zeros, most significant first. -/
def digits : Nat -> Nat -> List Char
  | 0, _ => []
  | width + 1, n => digits width (n / 16) ++ [digit n]

theorem digits_length (width n : Nat) : (digits width n).length = width := by
  induction width generalizing n with
  | zero => rfl
  | succ width ih => simp [digits, ih]

def lower (n : Nat) : String :=
  String.ofList (Nat.toDigits 16 n)

def lowerPadded (width n : Nat) : String :=
  String.ofList (digits width n)

def upperPadded (width n : Nat) : String :=
  String.ofList ((digits width n).map Char.toUpper)

def ofBytes : List UInt8 -> List Char
  | [] => []
  | byte :: rest => digit (byte.toNat / 16) :: digit byte.toNat :: ofBytes rest

theorem ofBytes_append (first second : List UInt8) :
    ofBytes (first ++ second) = ofBytes first ++ ofBytes second := by
  induction first with
  | nil => rfl
  | cons byte rest ih => simp [ofBytes, ih]

theorem ofBytes_length (bytes : List UInt8) : (ofBytes bytes).length = 2 * bytes.length := by
  induction bytes with
  | nil => rfl
  | cons byte rest ih =>
      simp only [ofBytes, List.length_cons, ih]
      omega

def value? (c : Char) : Option Nat :=
  if '0' <= c ∧ c <= '9' then some (c.toNat - '0'.toNat)
  else if 'a' <= c ∧ c <= 'f' then some (c.toNat - 'a'.toNat + 10)
  else if 'A' <= c ∧ c <= 'F' then some (c.toNat - 'A'.toNat + 10)
  else none

/-- The bytes written by pairs of digits; refuses anything else and a digit without a partner. -/
def toBytes? : List Char -> Option (List UInt8)
  | [] => some []
  | [_] => none
  | high :: low :: rest =>
      match value? high, value? low, toBytes? rest with
      | some h, some l, some bytes => some (UInt8.ofNat (16 * h + l) :: bytes)
      | _, _, _ => none

end DisplayInventory.Text.Hex
