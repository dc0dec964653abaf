import DisplayInventory.Card.Codes
import DisplayInventory.Text.Hex
import DisplayInventory.Text.Layout

/-!
# Encoders in a report
-/

namespace DisplayInventory.Encoder

def heading (encoder : Encoder) : String :=
  match Codes.encoderType? encoder.encoderType with
  | some name => "Encoder: " ++ name
  | none => "Encoder"

/-- The lines of an encoder; the debug style adds the controller that it is mapped to. -/
def lines (debug : Bool) (id : UInt32) (encoder : Encoder) : List String :=
  [encoder.heading,
   "\tid     :" ++ Text.decimal id.toNat,
   "\tcrtc_id   :" ++ Text.decimal encoder.crtcId.toNat,
   "\ttype   :" ++ Text.decimal encoder.encoderType.toNat,
   "\tpossible_crtcs  :0x" ++ Text.Hex.lower encoder.possibleCrtcs.toNat,
   "\tpossible_clones :0x" ++ Text.Hex.lower encoder.possibleClones.toNat] ++
  if debug then
    ["Encoder map: " ++ Text.decimal id.toNat ++ " to " ++ Text.decimal encoder.crtcId.toNat]
  else []

end DisplayInventory.Encoder
