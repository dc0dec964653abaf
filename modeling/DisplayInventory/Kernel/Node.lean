import DisplayInventory.Card.Objects
import DisplayInventory.Table

/-!
# Device nodes

What the kernel holds behind a device node.  Its objects are raw: names are bytes, a controller
tells by a number whether its mode counts, and a connector may be known in two states, one from
before it is probed and one from after.  A request for an object can fail with a system error
number.
-/

namespace DisplayInventory.Kernel

structure RawMode extends Timing where
  name : List UInt8 := []
  deriving DecidableEq

structure RawConnector extends Plug where
  modes : List RawMode := []
  props : List UInt32 := []
  propValues : List UInt64 := []
  encoders : List UInt32 := []
  deriving DecidableEq

/-- A connector before and after it is probed. -/
structure ConnectorStates where
  /-- The state found by probing. -/
  probed : RawConnector
  /-- The state known before. -/
  lastKnown : RawConnector
  deriving DecidableEq

structure RawCrtc where
  x : UInt32 := 0
  y : UInt32 := 0
  /-- Not zero if the mode counts. -/
  modeValid : UInt32 := 0
  mode : RawMode := {}
  gammaSize : UInt32 := 0
  deriving DecidableEq

structure RawNamedValue where
  value : UInt64 := 0
  name : List UInt8 := []
  deriving DecidableEq

structure RawProperty where
  name : List UInt8 := []
  flags : UInt32 := 0
  values : List UInt64 := []
  enums : List RawNamedValue := []
  deriving DecidableEq

/-- What is behind a device node. -/
structure Node where
  driver : List UInt8 := []
  /-- The error number with which the driver's name is withheld, if it is. -/
  driverFailure : Option Int := none
  /-- The error number with which aspect ratios are refused, if they are. -/
  aspectFailure : Option Int := none
  listing : Resources := {}
  /-- The error number with which the lists are withheld, if they are. -/
  listingFailure : Option Int := none
  connectors : Table UInt32 (Except Int ConnectorStates) := {}
  encoders : Table UInt32 (Except Int Encoder) := {}
  crtcs : Table UInt32 (Except Int RawCrtc) := {}
  framebuffers : Table UInt32 (Except Int Framebuffer) := {}
  properties : Table UInt32 (Except Int RawProperty) := {}
  blobs : Table UInt64 (Except Int (List UInt8)) := {}

end DisplayInventory.Kernel
