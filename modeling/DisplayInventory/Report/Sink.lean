import DisplayInventory.Report.Failure
import DisplayInventory.Text.Utf8

/-!
# Sinks

A sink takes the text of a report.  It may accept a limited number of bytes: of a text that goes
past the limit it keeps what fits and refuses the rest, however often that is offered.  Bytes that
have been kept are never lost.
-/

namespace DisplayInventory

structure Sink where
  /-- How many bytes are accepted in all; none sets no limit. -/
  limit : Option Nat := none
  /-- The answer to bytes that are offered past the limit. -/
  refusal : IoError := IoError.shortWrite
  /-- The failure of a flush, if it fails. -/
  flushFailure : Option IoError := none
  /-- The bytes accepted so far. -/
  kept : ByteArray := ByteArray.empty

namespace Sink

def unlimited : Sink := {}

/-- How many of `count` more bytes are accepted. -/
def room (sink : Sink) (count : Nat) : Nat :=
  match sink.limit with
  | none => count
  | some limit => min count (limit - sink.kept.size)

def keep (sink : Sink) (bytes : ByteArray) (count : Nat) : Sink :=
  { sink with kept := sink.kept ++ bytes.extract 0 count }

/-- Writes a text to the sink; the failure, if any, comes beside the sink afterwards. -/
def write (sink : Sink) (text : String) : Option Failure × Sink :=
  let bytes := text.toUTF8
  let room := sink.room bytes.size
  (if room < bytes.size then some (.ofRefusal sink.refusal) else none, sink.keep bytes room)

def bytes (sink : Sink) : List UInt8 :=
  sink.kept.data.toList

@[simp] theorem bytes_unlimited : unlimited.bytes = [] := rfl

theorem bytes_keep (sink : Sink) (piece : ByteArray) (count : Nat) :
    (sink.keep piece count).bytes = sink.bytes ++ piece.data.toList.take count := by
  simp [bytes, keep, ByteArray.data_append, ByteArray.data_extract]

/-- A write adds the bytes of the text for which there is room, and no others. -/
theorem bytes_write (sink : Sink) (text : String) :
    (sink.write text).2.bytes =
      sink.bytes ++ (Text.Utf8.encode text).take (sink.room (Text.Utf8.encode text).length) := by
  exact bytes_keep sink text.toUTF8 (sink.room text.toUTF8.size)

/-- A sink without a limit takes every text. -/
theorem write_of_limit_eq_none (sink : Sink) (text : String) (hlimit : sink.limit = none) :
    (sink.write text).1 = none ∧
      (sink.write text).2.bytes = sink.bytes ++ Text.Utf8.encode text := by
  constructor
  · simp [write, room, hlimit]
  · rw [bytes_write]
    simp [room, hlimit]

/-- A write changes nothing but the accepted bytes. -/
theorem write_keeps_settings (sink : Sink) (text : String) :
    (sink.write text).2.limit = sink.limit ∧ (sink.write text).2.refusal = sink.refusal ∧
      (sink.write text).2.flushFailure = sink.flushFailure :=
  ⟨rfl, rfl, rfl⟩

end Sink

end DisplayInventory
