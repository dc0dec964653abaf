import DisplayInventory.IoError
import DisplayInventory.Log.Record
import DisplayInventory.Text.Layout

/-!
# Log records of a report

A report goes on when a part of it can not be had; each such occasion leaves one of the records of
this file.
-/

namespace DisplayInventory.Notice

def objectMissing (kind : String) (id : UInt32) (cause : IoError) : Record :=
  ⟨.warn, .report,
    "Unable to get " ++ kind ++ " " ++ Text.decimal id.toNat ++ ": " ++ cause.message⟩

/-- A property could not be had, when `target` asked for it. -/
def propertyMissing (target : LogTarget) (id : UInt32) (cause : IoError) : Record :=
  ⟨.debug, target,
    "Unable to get property " ++ Text.decimal id.toNat ++ ": " ++ cause.message⟩

def blobMissing (id : UInt64) (cause : IoError) : Record :=
  ⟨.warn, .property, "Unable to get blob " ++ Text.decimal id.toNat ++ ": " ++ cause.message⟩

def edidMissing (id : UInt64) (cause : IoError) : Record :=
  ⟨.warn, .edid, "Unable to get EDID blob " ++ Text.decimal id.toNat ++ ": " ++ cause.message⟩

def edidShort (id : UInt64) : Record :=
  ⟨.debug, .edid, "EDID blob " ++ Text.decimal id.toNat ++ " is shorter than a base block"⟩

/-- Identification data that does not begin as it has to. -/
def edidUnreadable (id : UInt64) (bytes : List UInt8) : Record :=
  ⟨.debug, .edid,
    "Unable to parse EDID blob " ++ Text.decimal id.toNat ++ ": Position(Tag, [" ++
      String.intercalate ", " (bytes.map fun byte => Text.decimal byte.toNat) ++ "])"⟩

end DisplayInventory.Notice
