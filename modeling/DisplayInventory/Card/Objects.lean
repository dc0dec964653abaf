/-!
# Objects of a display card

Snapshots of what a card reports about itself: its connectors, the encoders and display
controllers behind them, its framebuffers, and the properties attached to its objects.  Numbers are
kept as they were reported; their meaning is read off where they are shown.
-/

namespace DisplayInventory

structure Timing where
  /-- Pixel clock in kilohertz. -/
  clock : UInt32 := 0
  hdisplay : UInt16 := 0
  hsyncStart : UInt16 := 0
  hsyncEnd : UInt16 := 0
  htotal : UInt16 := 0
  hskew : UInt16 := 0
  vdisplay : UInt16 := 0
  vsyncStart : UInt16 := 0
  vsyncEnd : UInt16 := 0
  vtotal : UInt16 := 0
  vscan : UInt16 := 0
  vrefresh : UInt32 := 0
  /-- Flags of the mode, the picture aspect ratio among them. -/
  flags : UInt32 := 0
  deriving DecidableEq

structure Mode extends Timing where
  name : String := ""
  deriving DecidableEq

/-- The numbers of a connector that do not depend on what is listed for it. -/
structure Plug where
  /-- Code of the kind of plug. -/
  connectorType : UInt32 := 0
  /-- Number of the connector among those of its kind. -/
  connectorTypeId : UInt32 := 0
  /-- The attached encoder, zero if there is none. -/
  encoderId : UInt32 := 0
  /-- Code of the connection status. -/
  connection : UInt32 := 0
  /-- Width of the display in millimetres. -/
  mmWidth : UInt32 := 0
  /-- Height of the display in millimetres. -/
  mmHeight : UInt32 := 0
  deriving DecidableEq

structure Connector extends Plug where
  modes : List Mode := []
  /-- Ids of the properties, in step with `propValues`. -/
  props : List UInt32 := []
  propValues : List UInt64 := []
  encoders : List UInt32 := []
  deriving DecidableEq

/--
The current value of a property: the value at the place where the id is listed first, if the
values reach that far.
-/
def Connector.propValue? (connector : Connector) (id : UInt32) : Option UInt64 :=
  match connector.props.findIdx? (· == id) with
  | none => none
  | some index => connector.propValues[index]?

structure Encoder where
  /-- Code of the kind of signal. -/
  encoderType : UInt32 := 0
  /-- The controller that feeds the encoder, zero if there is none. -/
  crtcId : UInt32 := 0
  /-- Mask over the list of controllers. -/
  possibleCrtcs : UInt32 := 0
  /-- Mask over the list of encoders. -/
  possibleClones : UInt32 := 0
  deriving DecidableEq

structure Crtc where
  x : UInt32 := 0
  y : UInt32 := 0
  /-- Width of the active mode, zero without one. -/
  width : UInt32 := 0
  /-- Height of the active mode, zero without one. -/
  height : UInt32 := 0
  mode : Option Mode := none
  gammaSize : UInt32 := 0
  deriving DecidableEq

structure Framebuffer where
  /-- Handle of the buffer behind it. -/
  handle : UInt32 := 0
  width : UInt32 := 0
  height : UInt32 := 0
  pitch : UInt32 := 0
  bpp : UInt32 := 0
  depth : UInt32 := 0
  deriving DecidableEq

structure NamedValue where
  value : UInt64 := 0
  name : String := ""
  deriving DecidableEq

/-- A property: what the values attached to objects under its id mean. -/
structure Property where
  id : UInt32 := 0
  name : String := ""
  flags : UInt32 := 0
  /-- Bounds of a range or ids of blobs, depending on the flags. -/
  values : List UInt64 := []
  enums : List NamedValue := []
  deriving DecidableEq

namespace Property

def rangeFlag : UInt32 := 2

def immutableFlag : UInt32 := 4

def enumFlag : UInt32 := 8

def blobFlag : UInt32 := 16

def bitmaskFlag : UInt32 := 32

def isBlobFlags (flags : UInt32) : Bool :=
  flags &&& blobFlag != 0

def isBlob (property : Property) : Bool :=
  isBlobFlags property.flags

end Property

/-- The ids of the objects of a card, in the order in which the card lists them. -/
structure Resources where
  connectors : List UInt32 := []
  encoders : List UInt32 := []
  crtcs : List UInt32 := []
  framebuffers : List UInt32 := []
  deriving DecidableEq

end DisplayInventory
