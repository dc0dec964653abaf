import DisplayInventory.Card.Memory
import DisplayInventory.Proofs.Report.Sections

/-!
# The footprint of a report

What a report asks next depends on what it was answered: the lists tell which connectors it asks
for, and these tell properties and blobs.  The footprint bounds all of it beforehand, from the
options and the card.  A report never leaves its footprint, whichever questions fail, so nothing
outside of it makes any difference.
-/

namespace DisplayInventory

namespace Query

/-- The question for the same object; a connector is the same one whether it is probed or not. -/
def object : Query -> Query
  | .connector id _ => .connector id true
  | query => query

def isDetail : Query -> Bool
  | .property _ | .blob _ => true
  | _ => false

end Query

namespace Card

/-! ## Changes of one object -/

section Fetch

variable {κ α : Type} [DecidableEq κ] {absent : IoError} {table : Table κ (Except IoError α)}
  {key other : κ}

theorem fetch_insert_of_ne {object : Except IoError α} (hne : other ≠ key) :
    fetch absent (table.insert key object) other = fetch absent table other := by
  rw [fetch, fetch, Table.find?_insert_of_ne table object hne]

theorem fetch_erase_of_ne (hne : other ≠ key) :
    fetch absent (table.erase key) other = fetch absent table other := by
  rw [fetch, fetch, Table.find?_erase_of_ne table hne]

end Fetch

variable (card : Card) {query other : Query}

/-- To put or to change an object changes no answer about another one. -/
theorem answer_setAnswer_of_ne (object : query.Answer) (hne : other.object ≠ query.object) :
    (card.setAnswer query object).answer other = card.answer other := by
  cases query with
  | resources =>
      have hother : other ≠ .resources := fun hsame => hne (congrArg Query.object hsame)
      cases object <;> cases other <;> first | rfl | exact absurd rfl hother
  | connector | encoder | crtc | framebuffer | property | blob =>
      cases other <;> first | rfl | exact fetch_insert_of_ne (by rintro rfl; exact hne rfl)

/-- To remove an object changes no answer about another one. -/
theorem answer_withdraw_of_ne (hne : other.object ≠ query.object) :
    (card.withdraw query).answer other = card.answer other := by
  cases query with
  | resources => rfl
  | connector | encoder | crtc | framebuffer | property | blob =>
      cases other <;> first | rfl | exact fetch_erase_of_ne (by rintro rfl; exact hne rfl)

/-! ## What a card lists -/

def listed (category : Category) : List UInt32 :=
  match card.answer .resources with
  | .ok listing => listing.list category
  | .error _ => []

theorem listed_of_ok {listing : Resources} (hlisting : card.answer .resources = .ok listing)
    (category : Category) : card.listed category = listing.list category := by
  rw [listed, hlisting]

/-- Whether a connector is given for an id that the card lists. -/
def Offers (connector : Connector) : Prop :=
  ∃ id ∈ card.listed .connectors, card.answer (.connector id true) = .ok connector

end Card

namespace Report

variable {options : Options} {card other : Card}

/--
What a report may look at: the lists, the listed objects of the categories that it shows, and, if it
shows connectors with their identification data or their properties, the properties and blobs whose
ids are found in a listed connector.
-/
def Footprint (options : Options) (card : Card) : Query -> Prop
  | .resources => True
  | .connector id _ => options.connectors = true ∧ id ∈ card.listed .connectors
  | .encoder id => options.encoders = true ∧ id ∈ card.listed .encoders
  | .crtc id => options.crtcs = true ∧ id ∈ card.listed .crtcs
  | .framebuffer id => options.framebuffers = true ∧ id ∈ card.listed .framebuffers
  | .property id =>
      options.connectors = true ∧ (options.edid = true ∨ options.fullProps = true) ∧
        ∃ connector, card.Offers connector ∧ id ∈ connector.props
  | .blob id =>
      options.connectors = true ∧ (options.edid = true ∨ options.fullProps = true) ∧
        ∃ connector, card.Offers connector ∧ id ∈ connector.propValues

/-- To be in the footprint is a matter of the object, not of the manner of asking. -/
theorem footprint_of_object_eq {query query' : Query} (hsame : query.object = query'.object)
    (hfootprint : Footprint options card query) : Footprint options card query' := by
  have hobject : ∀ query, Footprint options card query.object = Footprint options card query := by
    intro query
    cases query <;> rfl
  rwa [← hobject query, hsame, hobject query'] at hfootprint

theorem footprint_question {category : Category} (hshows : options.shows category = true)
    {id : UInt32} (hlisted : id ∈ card.listed category) :
    Footprint options card (category.question options id) := by
  cases category <;> exact ⟨hshows, hlisted⟩

/-- The answers that can be had of a card whose questions may fail besides. -/
def Possible (card : Card) (query : Query) (answer : query.Answer) : Prop :=
  ∀ object, answer = .ok object -> card.answer query = .ok object

theorem possible_answer (card : Card) (plan : FaultPlan) (asked : Nat) (query : Query) :
    Possible card query ((card.source plan).answer asked query).1 := by
  intro object hobject
  simp only [Card.source, Source.planned] at hobject
  split at hobject
  · exact absurd hobject nofun
  · exact hobject

theorem found_walks_footprint {category : Category} {id : UInt32}
    (hshows : options.shows category = true) (hlisted : id ∈ card.listed category)
    {object : (category.question options id).Found}
    (hfound : card.answer (category.question options id) = .ok object) :
    (found options category id object).Walks (Possible card) (Footprint options card) := by
  cases category with
  | connectors =>
      have hoffers : card.Offers object := ⟨id, hlisted, hfound⟩
      refine Connector.script_walks id fun hdetails => ⟨?_, ?_⟩
      · exact fun property hproperty => ⟨hshows, hdetails, object, hoffers, hproperty⟩
      · exact fun value hvalue => ⟨hshows, hdetails, object, hoffers, hvalue⟩
  | encoders => trivial
  | crtcs => trivial
  | framebuffers => trivial

/-- A report asks for nothing outside of its footprint. -/
theorem script_asks_footprint (options : Options) (card : Card) :
    (script options).Asks (Possible card) (Footprint options card) := by
  apply script_asks_of_blocks trivial
  intro listing hlisting category hshows id hid
  rw [← card.listed_of_ok (hlisting listing rfl)] at hid
  refine block_walks_of_found (footprint_question hshows hid) fun object hobject => ?_
  exact found_walks_footprint hshows hid (hobject object rfl)

/-- Cards that answer alike within a footprint agree on it, with the same faults. -/
theorem agree_of_footprint
    (hagree : ∀ query, Footprint options card query -> other.answer query = card.answer query)
    (plan : FaultPlan) :
    Script.Agree (Possible card) (Footprint options card) (fun asked asked' => asked = asked')
      (card.source plan) (other.source plan) := by
  rintro asked _ query rfl hquery
  refine ⟨?_, possible_answer card plan asked query, ?_⟩
  · simp only [Card.source, Source.planned]
    cases plan.failure? asked with
    | some cause => rfl
    | none => exact (hagree query hquery).symm
  · simp only [Card.source, Source.planned]
    cases plan.failure? asked <;> rfl

theorem seen_run_of_agree
    (hagree : ∀ query, Footprint options card query -> other.answer query = card.answer query)
    (plan : FaultPlan) (asked : Nat) (sink : Sink) :
    ((script options).run (other.source plan) asked sink).seen =
      ((script options).run (card.source plan) asked sink).seen :=
  have hseen :=
    (script_asks_footprint options card).seen_run_eq (agree_of_footprint hagree plan) rfl sink
  hseen.1.symm

/--
A report reads nothing outside its footprint.  Every question that it asks is in there, so it asks
for no property and no blob unless it shows connectors with their identification data or their
properties.  Cards that agree on the footprint can not be told apart by outcome, questions and
answers, records or text, and any object outside can be put, changed or removed unseen.
-/
theorem run_reads_footprint (options : Options) (card : Card) (plan : FaultPlan) (asked : Nat)
    (sink : Sink) :
    let report := fun card : Card => (script options).run (card.source plan) asked sink
    (∀ query ∈ (report card).queries, Footprint options card query) ∧
      (options.connectors = false ∨ options.edid = false ∧ options.fullProps = false ->
        ∀ query ∈ (report card).queries, query.isDetail = false) ∧
      (∀ other : Card,
        (∀ query, Footprint options card query -> other.answer query = card.answer query) ->
          (report other).seen = (report card).seen) ∧
      ∀ query, ¬Footprint options card query ->
        (∀ object, (report (card.setAnswer query object)).seen = (report card).seen) ∧
          (report (card.withdraw query)).seen = (report card).seen := by
  intro report
  have hwithin : ∀ query ∈ (report card).queries, Footprint options card query :=
    fun query hquery => (script_asks_footprint options card).permitted_of_mem_queries
      (possible_answer card plan) asked sink hquery
  refine ⟨hwithin, ?_, fun other hagree => seen_run_of_agree hagree plan asked sink, ?_⟩
  · intro hoff query hquery
    have hfootprint := hwithin query hquery
    cases query with
    | property | blob =>
        obtain ⟨hshown, hdetails, -⟩ := hfootprint
        simp_all
    | resources | connector | encoder | crtc | framebuffer => rfl
  · intro query houtside
    have hother : ∀ query', Footprint options card query' -> query'.object ≠ query.object :=
      fun query' hquery' hsame => houtside (footprint_of_object_eq hsame hquery')
    constructor
    · intro object
      exact seen_run_of_agree
        (fun query' hquery' => card.answer_setAnswer_of_ne object (hother query' hquery'))
        plan asked sink
    · exact seen_run_of_agree
        (fun query' hquery' => card.answer_withdraw_of_ne (hother query' hquery')) plan asked sink

/-- A property that no listed connector has can be changed or removed unseen. -/
theorem run_with_stray_property :
    let edid : Property := { name := "EDID", flags := Property.blobFlag }
    let connector : Connector := { props := [1], propValues := [7] }
    let card : Card :=
      { listing := { connectors := [3] }
        connectors := Table.ofList [(3, .ok connector)]
        properties := Table.ofList [(1, .ok edid), (2, .ok {})] }
    let options : Options := { connectors := true, edid := true }
    let report := fun card : Card => (script options).run (card.source []) 0 Sink.unlimited
    Footprint options card (.property 1) ∧ Footprint options card (.blob 7) ∧
      ¬Footprint options card (.property 2) ∧
      (report (card.setAnswer (.property 2) (.ok edid))).seen = (report card).seen ∧
      (report (card.withdraw (.property 2))).seen = (report card).seen := by
  intro edid connector card options report
  have hoffers : card.Offers connector := ⟨3, by decide, rfl⟩
  have houtside : ¬Footprint options card (.property 2) := by
    rintro ⟨-, -, other, ⟨id, hid, hother⟩, hmem⟩
    obtain rfl : id = 3 := List.mem_singleton.mp hid
    obtain rfl : connector = other := Except.ok.inj hother
    exact absurd hmem (by decide)
  obtain ⟨hset, hwithdrawn⟩ :=
    (run_reads_footprint options card [] 0 Sink.unlimited).2.2.2 (.property 2) houtside
  exact ⟨⟨rfl, .inl rfl, connector, hoffers, by decide⟩,
    ⟨rfl, .inl rfl, connector, hoffers, by decide⟩, houtside, hset _, hwithdrawn⟩

end Report

end DisplayInventory
