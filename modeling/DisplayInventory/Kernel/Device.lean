import DisplayInventory.Card.Codes
import DisplayInventory.Card.Query
import DisplayInventory.Kernel.Name
import DisplayInventory.Kernel.Node

/-!
# Open devices

An open device answers the questions of a report from the objects behind its node.  Two things
change its answers over time: whether aspect ratios were asked for, without which the kernel keeps
them back, and which connectors have been probed.
-/

namespace DisplayInventory.Kernel

structure Device where
  path : String
  node : Node

/-- What changes while a device is open. -/
structure DeviceState where
  /-- Whether the kernel reports aspect ratios. -/
  aspect : Bool := false
  /-- The connectors that have been probed. -/
  probed : List UInt32 := []
  deriving DecidableEq

/-- The flags of a mode as reported: without the aspect ratio, unless it was asked for. -/
def reportedFlags (aspect : Bool) (flags : UInt32) : UInt32 :=
  if aspect then flags else flags &&& ~~~Codes.aspectMask

def RawMode.report (aspect : Bool) (mode : RawMode) : Mode :=
  { mode.toTiming with
    flags := reportedFlags aspect mode.flags
    name := readName (nameField mode.name) }

/-- `values` cut, or filled up with zeros, to a length. -/
def fitValues (length : Nat) (values : List UInt64) : List UInt64 :=
  values.take length ++ List.replicate (length - values.length) 0

def RawConnector.report (aspect : Bool) (connector : RawConnector) : Connector :=
  { connector.toPlug with
    modes := connector.modes.map (RawMode.report aspect)
    props := connector.props
    propValues := fitValues connector.props.length connector.propValues
    encoders := connector.encoders }

def RawCrtc.report (aspect : Bool) (crtc : RawCrtc) : Crtc :=
  if crtc.modeValid = 0 then
    { x := crtc.x, y := crtc.y, gammaSize := crtc.gammaSize }
  else
    { x := crtc.x
      y := crtc.y
      width := crtc.mode.hdisplay.toUInt32
      height := crtc.mode.vdisplay.toUInt32
      mode := some (crtc.mode.report aspect)
      gammaSize := crtc.gammaSize }

def RawNamedValue.report (entry : RawNamedValue) : NamedValue :=
  ⟨entry.value, readName (nameField entry.name)⟩

def RawProperty.report (id : UInt32) (property : RawProperty) : Property :=
  { id
    name := readName (nameField property.name)
    flags := property.flags
    values := property.values
    enums := property.enums.map RawNamedValue.report }

/-- The part of a blob's id that reaches the kernel. -/
def kernelBlobId (id : UInt64) : UInt64 :=
  id % 0x100000000

namespace Node

def fetch {κ α : Type} [DecidableEq κ] (table : Table κ (Except Int α)) (id : κ) :
    Except IoError α :=
  match table.find? id with
  | some (.ok object) => .ok object
  | some (.error errno) => .error (.system errno)
  | none => .error IoError.missing

/-- Whether a request for a connector makes the kernel probe it: without a mode it can not tell
the request from one for a probe. -/
def probes (states : ConnectorStates) (force : Bool) : Bool :=
  force || states.lastKnown.modes.isEmpty

def connector (node : Node) (state : DeviceState) (id : UInt32) (force : Bool) :
    Except IoError Connector × DeviceState :=
  match fetch node.connectors id with
  | .error cause => (.error cause, state)
  | .ok states =>
      let probed := if probes states force then id :: state.probed else state.probed
      let current := if probed.contains id then states.probed else states.lastKnown
      (.ok (current.report state.aspect), { state with probed })

def answer (node : Node) (state : DeviceState) : (query : Query) -> query.Answer × DeviceState
  | .resources =>
      match node.listingFailure with
      | some errno => (.error (.system errno), state)
      | none => (.ok node.listing, state)
  | .connector id force => node.connector state id force
  | .encoder id => (fetch node.encoders id, state)
  | .crtc id => ((fetch node.crtcs id).map (RawCrtc.report state.aspect), state)
  | .framebuffer id => (fetch node.framebuffers id, state)
  | .property id => ((fetch node.properties id).map (RawProperty.report id), state)
  | .blob id => (fetch node.blobs (kernelBlobId id), state)

end Node

namespace Device

def source (device : Device) : Source DeviceState where
  answer state query := device.node.answer state query

def driverName (device : Device) : Except IoError String :=
  match device.node.driverFailure with
  | some errno => .error (.system errno)
  | none => .ok (readName device.node.driver)

def enableAspect (device : Device) (state : DeviceState) : Except IoError Unit × DeviceState :=
  match device.node.aspectFailure with
  | some errno => (.error (.system errno), state)
  | none => (.ok (), { state with aspect := true })

end Device

end DisplayInventory.Kernel
