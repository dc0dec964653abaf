import DisplayInventory.Card.Memory
import DisplayInventory.Report.Inventory
import DisplayInventory.Report.Run

/-!
# Cards that remember

A card in memory that records the questions asked of it.  Objects can be added, replaced and removed
between reports; none of that touches the record, and a report touches nothing else.
-/

namespace DisplayInventory

/-- A card in memory together with the questions asked of it. -/
structure RecordingCard where
  card : Card := {}
  /-- The questions asked since the record was last taken, in order. -/
  asked : List Query := []

namespace RecordingCard

def edit (recording : RecordingCard) (change : Card -> Card) : RecordingCard :=
  { recording with card := change recording.card }

def list (recording : RecordingCard) (category : Category) (ids : List UInt32) : RecordingCard :=
  recording.edit fun card => { card with listing := card.listing.append category ids }

def set (recording : RecordingCard) (query : Query) (object : query.Found) : RecordingCard :=
  recording.edit fun card => card.setAnswer query (.ok object)

/-- Withdraws what the card gives for a question; tells whether there was anything. -/
def withdraw (recording : RecordingCard) (query : Query) : Bool × RecordingCard :=
  (recording.card.gives query, recording.edit fun card => card.withdraw query)

def addConnector (recording : RecordingCard) (id : UInt32) (connector : Connector) :
    RecordingCard :=
  (recording.list .connectors [id]).set (.connector id true) connector

def addEncoder (recording : RecordingCard) (id : UInt32) (encoder : Encoder) : RecordingCard :=
  (recording.list .encoders [id]).set (.encoder id) encoder

def addCrtc (recording : RecordingCard) (id : UInt32) (crtc : Crtc) : RecordingCard :=
  (recording.list .crtcs [id]).set (.crtc id) crtc

def addFramebuffer (recording : RecordingCard) (id : UInt32) (framebuffer : Framebuffer) :
    RecordingCard :=
  (recording.list .framebuffers [id]).set (.framebuffer id) framebuffer

/-- Cuts a blob to a length; tells its length afterwards, if there is such a blob. -/
def truncateBlob (recording : RecordingCard) (id : UInt64) (length : Nat) :
    Option Nat × RecordingCard :=
  match recording.card.blobs.find? id with
  | some (.ok bytes) =>
      ((some (bytes.take length).length), recording.set (.blob id) (bytes.take length))
  | _ => (none, recording)

def withholdListing (recording : RecordingCard) (withheld : Bool) : RecordingCard :=
  recording.edit fun card =>
    { card with listingFailure := if withheld then some (.general .permissionDenied) else none }

def source (recording : RecordingCard) : Source (List Query) where
  answer asked query := (recording.card.answer query, asked ++ [query])

def report (recording : RecordingCard) (options : Options) :
    Run (List Query) Unit × RecordingCard :=
  let run := (Report.script options).run recording.source recording.asked Sink.unlimited
  (run, { recording with asked := run.state })

/-- Takes the record and starts a new one. -/
def takeAsked (recording : RecordingCard) : List Query × RecordingCard :=
  (recording.asked, { recording with asked := [] })

end RecordingCard

end DisplayInventory
