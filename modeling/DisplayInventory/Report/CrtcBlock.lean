import DisplayInventory.Report.ModeBlock

/-!
# Display controllers in a report
-/

namespace DisplayInventory.Crtc

def modeText (crtc : Crtc) : String :=
  match crtc.mode with
  | some mode => "\"" ++ mode.name ++ "\""
  | none => "(none)"

/-- The lines of a controller; the debug style adds its active mode. -/
def lines (debug : Bool) (id : UInt32) (crtc : Crtc) : List String :=
  ["Crtc",
   Text.field 15 "id" (Text.decimal id.toNat),
   Text.field 15 "x" (Text.decimal crtc.x.toNat),
   Text.field 15 "y" (Text.decimal crtc.y.toNat),
   Text.field 15 "width" (Text.decimal crtc.width.toNat),
   Text.field 15 "height" (Text.decimal crtc.height.toNat),
   Text.field 15 "mode" crtc.modeText,
   Text.field 15 "gamma size" (Text.decimal crtc.gammaSize.toNat)] ++
  match debug, crtc.mode with
  | true, some mode => [mode.debugLine (.crtc id)]
  | _, _ => []

end DisplayInventory.Crtc
