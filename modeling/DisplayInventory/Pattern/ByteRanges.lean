import DisplayInventory.Pattern.CharSet

/-!
# Ranges of characters as ranges of bytes

The characters of a range are the texts of a few rows of byte ranges: a row stands for all the texts
that take one byte from each of its ranges.  A range is cut where the number of bytes of a character
changes, and then so that in each row every byte but the first may take all of its values, or the
bytes before it are fixed.
-/

namespace DisplayInventory.Pattern

/-- Inclusive ranges of bytes, one for each byte of a character. -/
abbrev ByteRow := List (Nat × Nat)

def digitRows : Nat -> Nat -> Nat -> List ByteRow
  | 0, first, last => [[(first, last)]]
  | count + 1, first, last =>
      let unit := 64 ^ (count + 1)
      let (lead, low) := (first / unit, first % unit)
      let (stop, high) := (last / unit, last % unit)
      if lead = stop then (digitRows count low high).map ((lead, lead) :: ·)
      else
        let head :=
          if low = 0 then []
          else (digitRows count low (unit - 1)).map ((lead, lead) :: ·)
        let tail :=
          if high = unit - 1 then []
          else (digitRows count 0 high).map ((stop, stop) :: ·)
        let least := if low = 0 then lead else lead + 1
        let greatest := if high = unit - 1 then stop else stop - 1
        let full := (least, greatest) :: List.replicate (count + 1) (0, 63)
        head ++ (if least <= greatest then [full] else []) ++ tail

def moved (offset : Nat) (range : Nat × Nat) : Nat × Nat :=
  (offset + range.1, offset + range.2)

/-- The row of bytes of a row of digits, whose first byte has its digit above a mark. -/
def ofDigits (mark : Nat) : ByteRow -> ByteRow
  | [] => []
  | lead :: rest => moved mark lead :: rest.map (moved 0x80)

/-- The code points of the characters of one, two, three and four bytes with the number of bytes
behind the first and the mark of the first; the surrogates stand for no characters. -/
def lengthRanges : List (Nat × Nat × Nat × Nat) :=
  [(0, 0x7F, 0, 0), (0x80, 0x7FF, 1, 0xC0), (0x800, 0xD7FF, 2, 0xE0), (0xE000, 0xFFFF, 2, 0xE0),
   (0x10000, 0x10FFFF, 3, 0xF0)]

def rowsOf (range : Nat × Nat) : List ByteRow :=
  lengthRanges.flatMap fun (least, greatest, count, mark) =>
    let first := max least range.1
    let last := min greatest range.2
    if first <= last then (digitRows count first last).map (ofDigits mark) else []

def CharSet.rows (set : CharSet) : List ByteRow :=
  set.ranges.flatMap rowsOf

/-- Rows that begin with the same range taken together, if they follow each other: what comes behind
that range in each of them. -/
def byLead : List ByteRow -> List ((Nat × Nat) × List ByteRow)
  | [] => []
  | [] :: rest => byLead rest
  | (lead :: row) :: rest =>
      match byLead rest with
      | (next, rows) :: others =>
          if next = lead then (lead, row :: rows) :: others
          else (lead, [row]) :: (next, rows) :: others
      | [] => [(lead, [row])]

def remainders : Nat -> List ByteRow -> List (List ByteRow)
  | 0, _ => []
  | fuel + 1, rows =>
      rows :: (byLead rows).flatMap fun (_, rests) =>
        if rests.all List.isEmpty then [] else remainders fuel rests

def commonLength : ByteRow -> ByteRow -> Nat
  | first :: rest, other :: others => if first = other then commonLength rest others + 1 else 0
  | _, _ => 0

/-- The number of different beginnings of rows behind a row; rows with a beginning in common follow
each other. -/
def beginnings (before : ByteRow) : List ByteRow -> Nat
  | [] => 0
  | row :: rest => row.length - commonLength before row + beginnings row rest

end DisplayInventory.Pattern
