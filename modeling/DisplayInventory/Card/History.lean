import DisplayInventory.Card.Recording

/-!
# The history of a recording card

What can be done with a recording card, one step after the other: objects are added, set and
withdrawn, reports are made, and the record is read or taken.
-/

namespace DisplayInventory.RecordingCard

/-- One step of the history of a recording card. -/
inductive Step where
  | addConnector (id : UInt32) (connector : Connector)
  | addEncoder (id : UInt32) (encoder : Encoder)
  | addCrtc (id : UInt32) (crtc : Crtc)
  | addFramebuffer (id : UInt32) (framebuffer : Framebuffer)
  /-- Ids are listed behind those of a category. -/
  | list (category : Category) (ids : List UInt32)
  | setProperty (id : UInt32) (property : Property)
  | withdrawProperty (id : UInt32)
  | setBlob (id : UInt64) (bytes : List UInt8)
  | withdrawBlob (id : UInt64)
  | truncateBlob (id : UInt64) (length : Nat)
  /-- The lists of ids are withheld, or given again. -/
  | withhold (withheld : Bool)
  | report (options : Options)
  /-- The record is read. -/
  | readAsked
  /-- The record is read and starts anew. -/
  | takeAsked

inductive Shown where
  | nothing
  /-- Whether there was something to withdraw. -/
  | found (found : Bool)
  /-- The length of a blob, if there is one. -/
  | length (length : Option Nat)
  | report (run : Run (List Query) Unit)
  | asked (queries : List Query)

def apply (recording : RecordingCard) : Step -> Shown × RecordingCard
  | .addConnector id connector => (.nothing, recording.addConnector id connector)
  | .addEncoder id encoder => (.nothing, recording.addEncoder id encoder)
  | .addCrtc id crtc => (.nothing, recording.addCrtc id crtc)
  | .addFramebuffer id framebuffer => (.nothing, recording.addFramebuffer id framebuffer)
  | .list category ids => (.nothing, recording.list category ids)
  | .setProperty id property => (.nothing, recording.set (.property id) property)
  | .withdrawProperty id =>
      ((.found (recording.withdraw (.property id)).1), (recording.withdraw (.property id)).2)
  | .setBlob id bytes => (.nothing, recording.set (.blob id) bytes)
  | .withdrawBlob id =>
      ((.found (recording.withdraw (.blob id)).1), (recording.withdraw (.blob id)).2)
  | .truncateBlob id length =>
      ((.length (recording.truncateBlob id length).1), (recording.truncateBlob id length).2)
  | .withhold withheld => (.nothing, recording.withholdListing withheld)
  | .report options => (.report (recording.report options).1, (recording.report options).2)
  | .readAsked => (.asked recording.asked, recording)
  | .takeAsked => (.asked recording.takeAsked.1, recording.takeAsked.2)

/-- What the steps of a history show, in order, and the card after them. -/
def history (recording : RecordingCard) : List Step -> List Shown × RecordingCard
  | [] => ([], recording)
  | step :: rest =>
      let (shown, after) := recording.apply step
      let (later, last) := after.history rest
      (shown :: later, last)

end DisplayInventory.RecordingCard
