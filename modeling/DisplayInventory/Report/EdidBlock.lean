import DisplayInventory.Report.Notice
import DisplayInventory.Report.Script
import DisplayInventory.Text.Hex

/-!
# Identification data in a report

The display behind a connector identifies itself by a blob, whose id is the value of the property
named `EDID`.  The blob is dumped in rows of hexadecimal digits; if it begins with a base block, the
manufacturer and the product are read from it and shown first.
-/

namespace DisplayInventory.Edid

def blockLength : Nat := 128

def rowLength : Nat := 16

def signature : List UInt8 :=
  [0x00, 0xFF, 0xFF, 0xFF, 0xFF, 0xFF, 0xFF, 0x00]

/-- Consecutive groups of `width + 1` elements, the last of which may be shorter. -/
def groups {α : Type} (width : Nat) : List α -> List (List α)
  | [] => []
  | first :: rest => (first :: rest.take width) :: groups width (rest.drop width)
  termination_by items => items.length
  decreasing_by
    simp only [List.length_drop, List.length_cons]
    omega

def rowLines (bytes : List UInt8) : List String :=
  (groups (rowLength - 1) bytes).map fun row => "\t\t" ++ String.ofList (Text.Hex.ofBytes row)

structure Identity where
  manufacturer : String
  product : Nat
  deriving DecidableEq

def letter (code : Nat) : Char :=
  Char.ofNat (0x40 + code % 32)

/-- The byte at a position; past the end there are zeros. -/
def byteAt (bytes : List UInt8) (position : Nat) : Nat :=
  (bytes[position]?.getD 0).toNat

def manufacturerWord (bytes : List UInt8) : Nat :=
  byteAt bytes 8 * 256 + byteAt bytes 9

/--
The identity in a base block: three letters of five bits each in a big-endian word, and behind
them a little-endian word.
-/
def identity (bytes : List UInt8) : Identity where
  manufacturer :=
    String.ofList
      [letter (manufacturerWord bytes / 1024), letter (manufacturerWord bytes / 32),
       letter (manufacturerWord bytes)]
  product := byteAt bytes 10 + 256 * byteAt bytes 11

/-- What the bytes of a blob turn out to be. -/
inductive Reading where
  /-- There are too few of them for a base block. -/
  | short
  /-- They do not begin like a base block. -/
  | unreadable
  /-- They begin with a base block. -/
  | identified (identity : Identity)
  deriving DecidableEq

def read (bytes : List UInt8) : Reading :=
  if bytes.length < blockLength then .short
  else if signature.isPrefixOf bytes then .identified (identity bytes)
  else .unreadable

def Identity.lines (identity : Identity) : List String :=
  [Text.field 15 "manufacturer" identity.manufacturer,
   Text.field 15 "product" ("0x" ++ Text.Hex.lowerPadded 4 identity.product)]

def Reading.lines : Reading -> List String
  | .identified identity => identity.lines
  | _ => []

def Reading.notice? (id : UInt64) (bytes : List UInt8) : Reading -> Option Record
  | .short => some (Notice.edidShort id)
  | .unreadable => some (Notice.edidUnreadable id bytes)
  | .identified _ => none

def isEdid (property : Property) : Bool :=
  property.name == "EDID" && property.isBlob

def findProperty : List UInt32 -> Script (Option UInt32)
  | [] => .done none
  | id :: rest =>
      .ask (.property id) fun answer =>
        match answer with
        | .ok property => if isEdid property then .done (some id) else findProperty rest
        | .error cause => .log (Notice.propertyMissing .edid id cause) (findProperty rest)

/-- The blob's id, if the connector has it: the id zero stands for no blob. -/
def blobId? (connector : Connector) (property : Option UInt32) : Option UInt64 :=
  match property.bind connector.propValue? with
  | some value => if value = 0 then none else some value
  | none => none

def lengthLine (bytes : List UInt8) : String :=
  Text.field 15 "edid" (Text.decimal bytes.length ++ " bytes")

def dump (id : UInt64) (bytes : List UInt8) : Script Unit := do
  Script.line (lengthLine bytes)
  match (read bytes).notice? id bytes with
  | some record => Script.note record
  | none => pure ()
  Script.text (Text.unlines ((read bytes).lines ++ rowLines bytes))

def script (connector : Connector) : Script Unit := do
  match blobId? connector (<- findProperty connector.props) with
  | none => pure ()
  | some id =>
      match <- Script.query (.blob id) with
      | .ok bytes => dump id bytes
      | .error cause =>
          Script.note (Notice.edidMissing id cause)
          Script.line (Text.field 15 "edid" ("error getting blob " ++ Text.decimal id.toNat))

end DisplayInventory.Edid
