/-!
# Decoding of UTF-8 with replacement

Names arrive from the kernel as bytes, and nothing promises that they are well formed.  `decode`
reads the characters that are, and puts one replacement character in the place of every maximal
ill-formed piece: the longest run of bytes that begins some character, or a single byte if no
character begins with it.

The decoder is a machine that takes one byte at a time.  Between characters it rests; inside one
it keeps how many continuation bytes are still to come, the interval in which the next one has to
lie, and the bits read so far.
-/

namespace DisplayInventory.Text.Utf8

def replacement : Char :=
  Char.ofNat 0xFFFD

/-- A character of which the first bytes have been read. -/
structure Pending where
  /-- Continuation bytes still to come after the next one. -/
  more : Nat
  /-- Least value of the next byte. -/
  low : UInt8
  /-- Greatest value of the next byte. -/
  high : UInt8
  /-- Bits read so far. -/
  bits : Nat
  deriving DecidableEq

inductive Opening where
  /-- A character of a single byte. -/
  | single (c : Char)
  /-- The first byte of a longer character. -/
  | first (pending : Pending)
  /-- A byte with which no character begins. -/
  | stray

/--
Classification of a first byte.  The narrowed interval after `E0`, `ED`, `F0` and `F4` keeps out
the overlong forms, the surrogates and the values above the last code point.
-/
def opening (byte : UInt8) : Opening :=
  if byte < 0x80 then .single (Char.ofNat byte.toNat)
  else if byte < 0xC2 then .stray
  else if byte < 0xE0 then .first ⟨0, 0x80, 0xBF, byte.toNat - 0xC0⟩
  else if byte = 0xE0 then .first ⟨1, 0xA0, 0xBF, 0⟩
  else if byte = 0xED then .first ⟨1, 0x80, 0x9F, 0xD⟩
  else if byte < 0xF0 then .first ⟨1, 0x80, 0xBF, byte.toNat - 0xE0⟩
  else if byte = 0xF0 then .first ⟨2, 0x90, 0xBF, 0⟩
  else if byte < 0xF4 then .first ⟨2, 0x80, 0xBF, byte.toNat - 0xF0⟩
  else if byte = 0xF4 then .first ⟨2, 0x80, 0x8F, 4⟩
  else .stray

/-- The machine between two characters: what it writes for a byte, and where it goes. -/
def start (byte : UInt8) : List Char × Option Pending :=
  match opening byte with
  | .single c => ([c], none)
  | .first pending => ([], some pending)
  | .stray => ([replacement], none)

def step : Option Pending -> UInt8 -> List Char × Option Pending
  | none, byte => start byte
  | some pending, byte =>
      if pending.low <= byte ∧ byte <= pending.high then
        let bits := pending.bits * 64 + byte.toNat % 64
        match pending.more with
        | 0 => ([Char.ofNat bits], none)
        | more + 1 => ([], some ⟨more, 0x80, 0xBF, bits⟩)
      else
        (replacement :: (start byte).1, (start byte).2)

/-- What is written when the bytes end: an unfinished character is an ill-formed piece. -/
def finish : Option Pending -> List Char
  | none => []
  | some _ => [replacement]

def decodeFrom (state : Option Pending) : List UInt8 -> List Char
  | [] => finish state
  | byte :: rest => (step state byte).1 ++ decodeFrom (step state byte).2 rest

/-- The text of `bytes`, with a replacement character for every maximal ill-formed piece. -/
def decode (bytes : List UInt8) : String :=
  String.ofList (decodeFrom none bytes)

def encode (text : String) : List UInt8 :=
  text.toUTF8.data.toList

theorem encode_append (first second : String) :
    encode (first ++ second) = encode first ++ encode second := by
  simp [encode]

/-- The bytes of a text are those of its characters, one after the other. -/
theorem encode_ofList_cons (c : Char) (rest : List Char) :
    encode (String.ofList (c :: rest)) =
      String.utf8EncodeChar c ++ encode (String.ofList rest) := by
  have hsplit : String.ofList (c :: rest) = String.ofList [c] ++ String.ofList rest := by
    rw [← String.ofList_append]
    rfl
  have hsingle : encode (String.ofList [c]) = String.utf8EncodeChar c := by
    simp [encode, List.utf8Encode]
  rw [hsplit, ← hsingle]
  exact encode_append (String.ofList [c]) (String.ofList rest)

def decode? (bytes : List UInt8) : Option String :=
  String.fromUTF8? ⟨bytes.toArray⟩

end DisplayInventory.Text.Utf8
