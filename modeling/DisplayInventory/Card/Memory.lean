import DisplayInventory.Card.Category
import DisplayInventory.Card.Query
import DisplayInventory.Table

/-!
# Cards in memory

A card whose objects are all given.  Every answer depends only on the question; an object may be
given as a failure, and one that is not given at all is refused with a failure common to all of
them.

A plan of faults lets questions fail by their number, whatever they ask for.
-/

namespace DisplayInventory

structure Card where
  /-- The ids that the card lists. -/
  listing : Resources := {}
  /-- The failure with which the lists are withheld, if they are. -/
  listingFailure : Option IoError := none
  connectors : Table UInt32 (Except IoError Connector) := {}
  encoders : Table UInt32 (Except IoError Encoder) := {}
  crtcs : Table UInt32 (Except IoError Crtc) := {}
  framebuffers : Table UInt32 (Except IoError Framebuffer) := {}
  properties : Table UInt32 (Except IoError Property) := {}
  blobs : Table UInt64 (Except IoError (List UInt8)) := {}
  /-- The failure with which an object that is not given is refused. -/
  absent : IoError := .general .notFound

/-- The failures of questions by their number, counted from zero. -/
abbrev FaultPlan := List (Nat × IoError)

namespace FaultPlan

def failure? (plan : FaultPlan) (number : Nat) : Option IoError :=
  Table.findIn number plan

end FaultPlan

/-- A source that answers by the question alone, but for the planned faults. -/
def Source.planned (answers : (query : Query) -> query.Answer) (plan : FaultPlan) : Source Nat where
  answer asked query :=
    match plan.failure? asked with
    | some cause => (.error cause, asked + 1)
    | none => (answers query, asked + 1)

namespace Card

def fetch {κ α : Type} [DecidableEq κ] (absent : IoError) (table : Table κ (Except IoError α))
    (id : κ) : Except IoError α :=
  match table.find? id with
  | some object => object
  | none => .error absent

def answer (card : Card) : (query : Query) -> query.Answer
  | .resources =>
      match card.listingFailure with
      | some cause => .error cause
      | none => .ok card.listing
  | .connector id _ => fetch card.absent card.connectors id
  | .encoder id => fetch card.absent card.encoders id
  | .crtc id => fetch card.absent card.crtcs id
  | .framebuffer id => fetch card.absent card.framebuffers id
  | .property id => fetch card.absent card.properties id
  | .blob id => fetch card.absent card.blobs id

def setAnswer (card : Card) : (query : Query) -> query.Answer -> Card
  | .resources, .ok listing => { card with listing, listingFailure := none }
  | .resources, .error cause => { card with listing := {}, listingFailure := some cause }
  | .connector id _, object => { card with connectors := card.connectors.insert id object }
  | .encoder id, object => { card with encoders := card.encoders.insert id object }
  | .crtc id, object => { card with crtcs := card.crtcs.insert id object }
  | .framebuffer id, object => { card with framebuffers := card.framebuffers.insert id object }
  | .property id, object => { card with properties := card.properties.insert id object }
  | .blob id, object => { card with blobs := card.blobs.insert id object }

theorem answer_setAnswer_self (card : Card) (query : Query) (object : query.Answer) :
    (card.setAnswer query object).answer query = object := by
  cases query with
  | resources => cases object <;> rfl
  | connector id probe => simp [setAnswer, answer, fetch, Table.find?_insert_self]
  | encoder id => simp [setAnswer, answer, fetch, Table.find?_insert_self]
  | crtc id => simp [setAnswer, answer, fetch, Table.find?_insert_self]
  | framebuffer id => simp [setAnswer, answer, fetch, Table.find?_insert_self]
  | property id => simp [setAnswer, answer, fetch, Table.find?_insert_self]
  | blob id => simp [setAnswer, answer, fetch, Table.find?_insert_self]

/-- Whether the card gives something for a question; the lists of ids are always there. -/
def gives (card : Card) : Query -> Bool
  | .resources => true
  | .connector id _ => card.connectors.contains id
  | .encoder id => card.encoders.contains id
  | .crtc id => card.crtcs.contains id
  | .framebuffer id => card.framebuffers.contains id
  | .property id => card.properties.contains id
  | .blob id => card.blobs.contains id

def withdraw (card : Card) : Query -> Card
  | .resources => card
  | .connector id _ => { card with connectors := card.connectors.erase id }
  | .encoder id => { card with encoders := card.encoders.erase id }
  | .crtc id => { card with crtcs := card.crtcs.erase id }
  | .framebuffer id => { card with framebuffers := card.framebuffers.erase id }
  | .property id => { card with properties := card.properties.erase id }
  | .blob id => { card with blobs := card.blobs.erase id }

def withList (card : Card) (category : Category) (ids : List UInt32) : Card :=
  { card with listing := card.listing.withList category ids }

/-- The card as a source, whose state is the number of questions asked. -/
def source (card : Card) (plan : FaultPlan) : Source Nat :=
  Source.planned card.answer plan

end Card

end DisplayInventory
