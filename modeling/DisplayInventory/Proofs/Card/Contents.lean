import DisplayInventory.Proofs.Card.Record
import DisplayInventory.Proofs.Report.Footprint

/-!
# What is on a recording card

What is on a card is told from the steps of its history alone: its lists are the ids that were
listed, one behind the other, an object is what the last step that concerns it made of it, and the
lists are withheld as the last switch says.  Reports and readers leave all of it alone.
-/

namespace DisplayInventory

theorem Resources.list_append (resources : Resources) (category other : Category)
    (ids : List UInt32) :
    (resources.append category ids).list other =
      resources.list other ++ if other = category then ids else [] := by
  by_cases hsame : other = category
  · rw [hsame, if_pos rfl]
    exact resources.list_withList_self category _
  · rw [if_neg hsame, List.append_nil]
    exact resources.list_withList_of_ne _ hsame

def Card.orAbsent {α : Type} : Option α -> Except IoError α
  | some object => .ok object
  | none => .error (.general .notFound)

namespace RecordingCard

/-! ## What steps do -/

namespace Step

def lists : Step -> Category -> List UInt32
  | .addConnector id _, .connectors => [id]
  | .addEncoder id _, .encoders => [id]
  | .addCrtc id _, .crtcs => [id]
  | .addFramebuffer id _, .framebuffers => [id]
  | .list category ids, other => if other = category then ids else []
  | _, _ => []

/-- What a step does to the object of a question, if it concerns it. -/
def change? : Step -> (query : Query) -> Option (Option query.Found -> Option query.Found)
  | .addConnector id connector, .connector other _ =>
      if other = id then some fun _ => some connector else none
  | .addEncoder id encoder, .encoder other =>
      if other = id then some fun _ => some encoder else none
  | .addCrtc id crtc, .crtc other => if other = id then some fun _ => some crtc else none
  | .addFramebuffer id framebuffer, .framebuffer other =>
      if other = id then some fun _ => some framebuffer else none
  | .setProperty id property, .property other =>
      if other = id then some fun _ => some property else none
  | .withdrawProperty id, .property other => if other = id then some fun _ => none else none
  | .setBlob id bytes, .blob other => if other = id then some fun _ => some bytes else none
  | .withdrawBlob id, .blob other => if other = id then some fun _ => none else none
  | .truncateBlob id length, .blob other =>
      if other = id then some (Option.map (List.take length)) else none
  | _, _ => none

def leaves (step : Step) (query : Query) (held : Option query.Found) : Option query.Found :=
  (step.change? query).elim held fun change => change held

/-- How a step switches the lists, if it does. -/
def withholds? : Step -> Option Bool
  | .withhold withheld => some withheld
  | _ => none

def edits : Step -> Bool
  | .report _ | .readAsked | .takeAsked => false
  | _ => true

end Step

end RecordingCard

/-- What is on a card, told without its tables. -/
structure Contents where
  listed : Category -> List UInt32
  held : (query : Query) -> Option query.Found
  withheld : Bool

namespace Contents

open RecordingCard (Step)

def after (contents : Contents) (steps : List Step) : Contents where
  listed category := contents.listed category ++ steps.flatMap fun step => step.lists category
  held query := steps.foldl (fun held step => step.leaves query held) (contents.held query)
  withheld := (steps.filterMap Step.withholds?).getLast?.getD contents.withheld

def listing (contents : Contents) : Resources where
  connectors := contents.listed .connectors
  encoders := contents.listed .encoders
  crtcs := contents.listed .crtcs
  framebuffers := contents.listed .framebuffers

def answer (contents : Contents) : (query : Query) -> query.Answer
  | .resources =>
      if contents.withheld then .error (.general .permissionDenied) else .ok contents.listing
  | query => Card.orAbsent (contents.held query)

theorem after_nil (contents : Contents) : contents.after [] = contents := by
  simp [after]

theorem after_cons (contents : Contents) (step : Step) (rest : List Step) :
    contents.after (step :: rest) = (contents.after [step]).after rest := by
  have hwithheld : (([step] ++ rest).filterMap Step.withholds?).getLast?.getD contents.withheld =
      (rest.filterMap Step.withholds?).getLast?.getD
        (([step].filterMap Step.withholds?).getLast?.getD contents.withheld) := by
    rw [List.filterMap_append, List.getLast?_append, Option.getD_or]
  simp only [after, Contents.mk.injEq]
  refine ⟨?_, rfl, hwithheld⟩
  funext category
  rw [List.flatMap_cons, List.flatMap_singleton, List.append_assoc]

/-- Steps that do not concern an object leave it as it was. -/
theorem held_after_of_unconcerned (contents : Contents) {query : Query} {steps : List Step}
    (hnone : ∀ step ∈ steps, step.change? query = none) :
    (contents.after steps).held query = contents.held query := by
  induction steps generalizing contents with
  | nil => rfl
  | cons step rest ih =>
      have hfirst : (contents.after [step]).held query = contents.held query := by
        simp [after, Step.leaves, hnone step List.mem_cons_self]
      have hrest : ∀ other ∈ rest, other.change? query = none :=
        fun other hother => hnone other (List.mem_cons_of_mem step hother)
      rw [after_cons, ih _ hrest, hfirst]

theorem after_append (contents : Contents) (first second : List Step) :
    contents.after (first ++ second) = (contents.after first).after second := by
  induction first generalizing contents with
  | nil => rw [List.nil_append, after_nil]
  | cons step rest ih => rw [List.cons_append, after_cons, ih, ← after_cons]

/-- The last step that concerns an object makes it what it is. -/
theorem held_after_of_last (contents : Contents) {query : Query}
    {change : Option query.Found -> Option query.Found} {before later : List Step} {step : Step}
    (hchange : step.change? query = some change)
    (hlast : ∀ other ∈ later, other.change? query = none) :
    (contents.after (before ++ step :: later)).held query =
      change ((contents.after before).held query) := by
  rw [after_append, after_cons, held_after_of_unconcerned _ hlast]
  simp [after, Step.leaves, hchange]

end Contents

/-! ## What is on a card -/

/-- Whether this is on a card, and no failure in the place of an object. -/
structure Card.Holds (card : Card) (contents : Contents) : Prop where
  listed : ∀ category, card.listing.list category = contents.listed category
  held : ∀ query, query ≠ .resources ->
    card.answer query = Card.orAbsent (contents.held query)
  withheld : card.listingFailure =
    if contents.withheld then some (.general .permissionDenied) else none
  absent : card.absent = .general .notFound

theorem Card.Holds.answer_eq {card : Card} {contents : Contents} (hholds : card.Holds contents) :
    card.answer = contents.answer := by
  funext query
  cases query with
  | resources =>
      have hlisting : card.listing = contents.listing := by
        rw [Contents.listing, ← hholds.listed, ← hholds.listed, ← hholds.listed, ← hholds.listed]
        rfl
      simp only [Card.answer, Contents.answer, hholds.withheld, hlisting]
      cases contents.withheld <;> rfl
  | connector | encoder | crtc | framebuffer | property | blob =>
      exact hholds.held _ (by simp)

namespace Card

variable {κ α : Type} [DecidableEq κ] {absent : IoError} {table : Table κ (Except IoError α)}
  {other : κ} {held : Option α}

theorem fetch_insert (hheld : fetch absent table other = orAbsent held) (key : κ) (object : α) :
    fetch absent (table.insert key (.ok object)) other =
      orAbsent (Option.elim (if other = key then some fun _ => some object else none) held
        fun change => change held) := by
  by_cases hsame : other = key
  · rw [hsame, if_pos rfl, fetch, Table.find?_insert_self]
    rfl
  · rw [if_neg hsame, fetch_insert_of_ne hsame, hheld]
    rfl

theorem fetch_erase (habsent : absent = .general .notFound)
    (hheld : fetch absent table other = orAbsent held) (key : κ) :
    fetch absent (table.erase key) other =
      orAbsent (Option.elim (if other = key then some fun _ => none else none) held
        fun change => change held) := by
  by_cases hsame : other = key
  · rw [hsame, if_pos rfl, fetch, Table.find?_erase_self, habsent]
    rfl
  · rw [if_neg hsame, fetch_erase_of_ne hsame, hheld]
    rfl

end Card

namespace RecordingCard

section Apply

variable (recording : RecordingCard) (step : Step)

theorem list_apply (category : Category) :
    (recording.apply step).2.card.listing.list category =
      recording.card.listing.list category ++ step.lists category := by
  cases step with
  | list listed ids => exact recording.card.listing.list_append listed category ids
  | addConnector id | addEncoder id | addCrtc id | addFramebuffer id =>
      refine (Resources.list_append _ _ category [id]).trans ?_
      cases category <;> rfl
  | truncateBlob id length =>
      obtain ⟨blobs, hblobs⟩ := recording.exists_blobs_truncateBlob id length
      simp only [apply, hblobs]
      exact (List.append_nil _).symm
  | setProperty | withdrawProperty | setBlob | withdrawBlob | withhold | report | readAsked
  | takeAsked => exact (List.append_nil _).symm

theorem listingFailure_apply :
    (recording.apply step).2.card.listingFailure =
      match step.withholds? with
      | some withheld => if withheld then some (.general .permissionDenied) else none
      | none => recording.card.listingFailure := by
  cases step with
  | truncateBlob id length =>
      obtain ⟨blobs, hblobs⟩ := recording.exists_blobs_truncateBlob id length
      simp only [apply, hblobs]
      rfl
  | addConnector | addEncoder | addCrtc | addFramebuffer | list | setProperty | withdrawProperty
  | setBlob | withdrawBlob | withhold | report | readAsked | takeAsked => rfl

theorem absent_apply : (recording.apply step).2.card.absent = recording.card.absent := by
  cases step with
  | truncateBlob id length =>
      obtain ⟨blobs, hblobs⟩ := recording.exists_blobs_truncateBlob id length
      simp only [apply, hblobs]
      rfl
  | addConnector | addEncoder | addCrtc | addFramebuffer | list | setProperty | withdrawProperty
  | setBlob | withdrawBlob | withhold | report | readAsked | takeAsked => rfl

variable {recording}

theorem answer_truncateBlob {query : Query} {held : Option query.Found}
    (hheld : recording.card.answer query = Card.orAbsent held) (id : UInt64) (length : Nat) :
    (recording.truncateBlob id length).2.card.answer query =
      Card.orAbsent ((Step.truncateBlob id length).leaves query held) := by
  cases query with
  | blob other =>
      simp only [Step.leaves, Step.change?]
      obtain ⟨bytes, hbytes, hcut⟩ | ⟨hnone, hsame⟩ := recording.truncateBlob_cases id length
      · rw [hcut]
        refine (Card.fetch_insert hheld id (bytes.take length)).trans ?_
        by_cases hid : other = id
        · rw [← hid, hheld] at hbytes
          cases held with
          | none => exact absurd hbytes nofun
          | some object =>
              rw [if_pos hid, if_pos hid, Except.ok.inj hbytes]
              rfl
        · rw [if_neg hid, if_neg hid]
      · rw [hsame, hheld]
        by_cases hid : other = id
        · cases held with
          | none =>
              rw [if_pos hid]
              rfl
          | some object => exact absurd (hid ▸ hheld) (hnone object)
        · rw [if_neg hid]
          rfl
  | resources | connector | encoder | crtc | framebuffer | property =>
      obtain ⟨blobs, hblobs⟩ := recording.exists_blobs_truncateBlob id length
      rw [hblobs]
      exact hheld

/-- What a step leaves of an object is what the card answers afterwards. -/
theorem answer_apply {query : Query} (hobject : query ≠ .resources) {held : Option query.Found}
    (habsent : recording.card.absent = .general .notFound)
    (hheld : recording.card.answer query = Card.orAbsent held) :
    (recording.apply step).2.card.answer query = Card.orAbsent (step.leaves query held) := by
  cases query with
  | resources => exact absurd rfl hobject
  | connector other probe =>
      cases step with
      | addConnector id connector => exact Card.fetch_insert hheld id connector
      | truncateBlob id length => exact answer_truncateBlob hheld id length
      | _ => exact hheld
  | encoder other =>
      cases step with
      | addEncoder id encoder => exact Card.fetch_insert hheld id encoder
      | truncateBlob id length => exact answer_truncateBlob hheld id length
      | _ => exact hheld
  | crtc other =>
      cases step with
      | addCrtc id crtc => exact Card.fetch_insert hheld id crtc
      | truncateBlob id length => exact answer_truncateBlob hheld id length
      | _ => exact hheld
  | framebuffer other =>
      cases step with
      | addFramebuffer id framebuffer => exact Card.fetch_insert hheld id framebuffer
      | truncateBlob id length => exact answer_truncateBlob hheld id length
      | _ => exact hheld
  | property other =>
      cases step with
      | setProperty id property => exact Card.fetch_insert hheld id property
      | withdrawProperty id => exact Card.fetch_erase habsent hheld id
      | truncateBlob id length => exact answer_truncateBlob hheld id length
      | _ => exact hheld
  | blob other =>
      cases step with
      | setBlob id bytes => exact Card.fetch_insert hheld id bytes
      | withdrawBlob id => exact Card.fetch_erase habsent hheld id
      | truncateBlob id length => exact answer_truncateBlob hheld id length
      | _ => exact hheld

end Apply

/-! ## What histories do -/

theorem holds_apply {recording : RecordingCard} {contents : Contents}
    (hholds : recording.card.Holds contents) (step : Step) :
    (recording.apply step).2.card.Holds (contents.after [step]) where
  listed category := by
    simp [Contents.after, list_apply, hholds.listed]
  held query hobject := answer_apply step hobject hholds.absent (hholds.held query hobject)
  withheld := by
    rw [listingFailure_apply]
    cases hswitch : step.withholds? with
    | none => simp [Contents.after, hswitch, hholds.withheld]
    | some withheld => simp [Contents.after, hswitch]
  absent := (absent_apply recording step).trans hholds.absent

theorem holds_history {recording : RecordingCard} {contents : Contents}
    (hholds : recording.card.Holds contents) (steps : List Step) :
    (recording.history steps).2.card.Holds (contents.after steps) := by
  induction steps generalizing recording contents with
  | nil => rwa [Contents.after_nil]
  | cons step rest ih =>
      rw [Contents.after_cons]
      exact ih (holds_apply hholds step)

/-- What a step does to a card does not depend on the record. -/
theorem card_apply_of_same {first second : RecordingCard} (hsame : first.card = second.card)
    (step : Step) : (first.apply step).2.card = (second.apply step).2.card := by
  obtain ⟨card, asked⟩ := first
  obtain ⟨card', asked'⟩ := second
  obtain rfl : card = card' := hsame
  cases step with
  | truncateBlob id length =>
      simp only [apply, truncateBlob]
      split <;> rfl
  | _ => rfl

theorem card_apply_of_not_edits (recording : RecordingCard) {step : Step}
    (hreads : step.edits = false) : (recording.apply step).2.card = recording.card := by
  cases step with
  | report | readAsked | takeAsked => rfl
  | _ => exact absurd hreads nofun

/-- Without the steps that look at the card, the others do the same to it. -/
theorem card_history_filter_edits {first second : RecordingCard}
    (hsame : first.card = second.card) (steps : List Step) :
    (first.history steps).2.card = (second.history (steps.filter Step.edits)).2.card := by
  induction steps generalizing first second with
  | nil => exact hsame
  | cons step rest ih =>
      cases hedits : step.edits with
      | true =>
          rw [List.filter_cons_of_pos hedits]
          exact ih (card_apply_of_same hsame step)
      | false =>
          rw [List.filter_cons_of_neg (by simp [hedits])]
          exact ih ((card_apply_of_not_edits first hedits).trans hsame)

end RecordingCard

end DisplayInventory
