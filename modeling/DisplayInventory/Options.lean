/-!
# Options of a report

What a report shows and where it takes it from.
-/

namespace DisplayInventory

structure Options where
  framebuffers : Bool := false
  /-- Show the identification data of the connectors. -/
  edid : Bool := false
  crtcs : Bool := false
  modes : Bool := false
  encoders : Bool := false
  /-- Show every number of a mode. -/
  fullModes : Bool := false
  /-- Show the properties of the connectors. -/
  fullProps : Bool := false
  connectors : Bool := false
  /-- Take connectors in their last known state instead of having them probed. -/
  current : Bool := false
  /-- Show modes on one line, with the object they belong to. -/
  debugModes : Bool := false
  /-- The device to open; without one the devices of the host are tried. -/
  device : Option String := none
  /-- The driver by which a tried device has to be driven. -/
  driver : Option String := none
  /-- The file that takes the log. -/
  logFile : Option String := none
  /-- Arguments that were not understood. -/
  ignored : List String := []
  deriving DecidableEq

namespace Options

/-- The categories that are shown when none is chosen. -/
def withStandard (options : Options) : Options :=
  { options with
    framebuffers := true
    edid := true
    crtcs := true
    modes := true
    encoders := true
    connectors := true }

end Options

end DisplayInventory
