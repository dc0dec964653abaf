import DisplayInventory.Card.Recording

/-!
# Sample objects

A display with two modes behind a connector, and a card that knows the properties of that connector
but lists no object yet.
-/

namespace DisplayInventory.Samples

def powerProperty : UInt32 := 1

def edidProperty : UInt32 := 2

def edidBlob : UInt64 := 100

def mode1080p : Mode where
  name := "1920x1080"
  clock := 148500
  hdisplay := 1920
  hsyncStart := 2008
  hsyncEnd := 2052
  htotal := 2200
  vdisplay := 1080
  vsyncStart := 1084
  vsyncEnd := 1089
  vtotal := 1125
  vrefresh := 60
  flags := 0x00100005

def mode720p : Mode where
  name := "1280x720"
  clock := 74250
  hdisplay := 1280
  hsyncStart := 1390
  hsyncEnd := 1430
  htotal := 1650
  vdisplay := 720
  vsyncStart := 725
  vsyncEnd := 730
  vtotal := 750
  vrefresh := 60
  flags := 5

def connector : Connector where
  connectorType := 11
  connectorTypeId := 1
  encoderId := 40
  connection := 1
  mmWidth := 600
  mmHeight := 340
  modes := [mode1080p, mode720p]
  props := [powerProperty, edidProperty]
  propValues := [3, edidBlob]
  encoders := [40, 41]

def emptyDescriptor : List UInt8 :=
  [0, 0, 0, 0x10] ++ List.replicate 14 0

/-- A base block of the manufacturer `DEL` with product code `a0b1`. -/
def edid : List UInt8 :=
  Edid.signature ++ [0x10, 0xAC, 0xB1, 0xA0] ++ List.replicate 42 0 ++
    (List.replicate 4 emptyDescriptor).flatten ++ [0, 0]

def power : Property where
  id := powerProperty
  name := "DPMS"
  flags := Property.enumFlag
  values := [0, 1, 2, 3]
  enums := [⟨0, "On"⟩, ⟨1, "Standby"⟩, ⟨2, "Suspend"⟩, ⟨3, "Off"⟩]

def identification : Property where
  id := edidProperty
  name := "EDID"
  flags := Property.blobFlag ||| Property.immutableFlag

/-- A card that lists nothing, with the two properties and the blob. -/
def card : RecordingCard where
  card :=
    { properties := Table.ofList [(powerProperty, .ok power), (edidProperty, .ok identification)]
      blobs := Table.ofList [(edidBlob, .ok edid)] }

def withholdingCard : RecordingCard :=
  card.withholdListing true

end DisplayInventory.Samples
