import DisplayInventory.Card.Objects

/-!
# Names of codes

Names of the numeric codes by which a card tells the kind of a connector, its connection status,
the kind of an encoder and the picture aspect ratio of a mode.
-/

namespace DisplayInventory.Codes

def connectorTypes : List String :=
  ["Unknown", "VGA", "DVI-I", "DVI-D", "DVI-A", "Composite", "SVIDEO", "LVDS", "Component",
   "DIN", "DP", "HDMI-A", "HDMI-B", "TV", "eDP", "Virtual", "DSI", "DPI", "Writeback", "SPI",
   "USB"]

def encoderTypes : List String :=
  ["none", "DAC", "TMDS", "LVDS", "TVDAC", "Virtual", "DSI", "DPMST", "DPI"]

def aspectRatios : List String :=
  ["n/a", "4:3", "16:9", "64:27", "256:135"]

def connectorType? (code : UInt32) : Option String :=
  connectorTypes[code.toNat]?

def connectionStatus (code : UInt32) : String :=
  if code = 1 then "connected"
  else if code = 2 then "disconnected"
  else "unknown"

def encoderType? (code : UInt32) : Option String :=
  encoderTypes[code.toNat]?

/-- The name of a picture aspect ratio; a code without a name reads as no ratio. -/
def aspectRatio (code : UInt32) : String :=
  aspectRatios[code.toNat]?.getD "n/a"

/-- The four bits of the mode flags that hold the picture aspect ratio. -/
def aspectMask : UInt32 := 0x00780000

def aspectRatioOf (flags : UInt32) : UInt32 :=
  (flags &&& aspectMask) >>> 19

end DisplayInventory.Codes
