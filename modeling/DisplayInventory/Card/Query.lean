import DisplayInventory.Card.Objects
import DisplayInventory.IoError

/-!
# Questions to a card

A report learns about a card by asking for one object at a time.  The type of an answer depends on
the question, and every question can fail.
-/

namespace DisplayInventory

inductive Query where
  /-- The ids of its objects. -/
  | resources
  /-- A connector, probed anew or as last known. -/
  | connector (id : UInt32) (probe : Bool)
  | encoder (id : UInt32)
  | crtc (id : UInt32)
  | framebuffer (id : UInt32)
  | property (id : UInt32)
  /-- The bytes of a blob. -/
  | blob (id : UInt64)
  deriving DecidableEq

namespace Query

abbrev Found : Query -> Type
  | .resources => Resources
  | .connector _ _ => Connector
  | .encoder _ => Encoder
  | .crtc _ => Crtc
  | .framebuffer _ => Framebuffer
  | .property _ => Property
  | .blob _ => List UInt8

abbrev Answer (query : Query) : Type :=
  Except IoError query.Found

end Query

/-- A question together with its answer. -/
structure Exchange where
  query : Query
  answer : query.Answer

/--
Something that answers questions.  The answer may depend on a state, and asking may change that
state.
-/
structure Source (State : Type) where
  answer : State -> (query : Query) -> query.Answer × State

end DisplayInventory
