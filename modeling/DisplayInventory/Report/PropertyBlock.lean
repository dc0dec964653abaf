import DisplayInventory.Report.Notice
import DisplayInventory.Report.Script
import DisplayInventory.Text.Hex

/-!
# Properties in a report

A property is shown with the value that a connector has for it.  If the value is the id of a blob,
the blob is fetched and its length and first word are shown; otherwise the named values are
listed and the current one is told by its name, if it has one.
-/

namespace DisplayInventory

/-- The word whose little-endian bytes are the first four of `bytes`, padded with zeros. -/
def firstWord (bytes : List UInt8) : Nat :=
  (bytes.take 4).foldr (fun byte rest => byte.toNat + 256 * rest) 0

namespace Property

/-- The name of the last entry with a value. -/
def lastName? (value : UInt64) : List NamedValue -> Option String
  | [] => none
  | entry :: rest =>
      match lastName? value rest with
      | some name => some name
      | none => if entry.value = value then some entry.name else none

def descriptionLines (property : Property) : List String :=
  ["Property: " ++ property.name,
   Text.field 13 "id" (Text.decimal property.id.toNat),
   Text.field 13 "flags" (Text.decimal property.flags.toNat),
   Text.field 13 "count_values" (Text.decimal property.values.length)] ++
  Text.listField 13 "values" (property.values.map UInt64.toNat) ++
  [Text.field 13 "count_enums" (Text.decimal property.enums.length)]

def entryLine (entry : NamedValue) : String :=
  "\t\t" ++ Text.decimal entry.value.toNat ++ " = " ++ entry.name

def valueText (property : Property) (value : UInt64) : String :=
  (lastName? value property.enums).getD (Text.decimal value.toNat)

def valueLines (property : Property) (value : UInt64) : List String :=
  property.enums.map entryLine ++ [Text.field 13 "con_value" (property.valueText value)]

def blobLine (bytes : List UInt8) : String :=
  "blob is " ++ Text.decimal bytes.length ++ " length, " ++ Text.Hex.upperPadded 8 (firstWord bytes)

def script (property : Property) (value : UInt64) : Script Unit := do
  Script.text (Text.unlines property.descriptionLines)
  if property.isBlob then
    match <- Script.query (.blob value) with
    | .ok bytes => Script.line (blobLine bytes)
    | .error cause =>
        Script.note (Notice.blobMissing value cause)
        Script.line ("error getting blob " ++ Text.decimal value.toNat)
  else
    Script.text (Text.unlines (property.valueLines value))

end Property

end DisplayInventory
