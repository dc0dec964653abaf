import DisplayInventory.Proofs.Report.Sections
import Mathlib.Data.List.Forall2

/-!
# Every listed object is shown

A report goes through the listed ids of the categories that are asked for, in order and with
repetitions, whichever questions fail on the way.  An id is shown by the block of its object, or by
one line if the object can not be had.  The invariant is that no script within a section gives up,
and that the block of an object asks for no other listed object.
-/

namespace DisplayInventory

def Category.countLine : Category -> Nat -> String
  | .connectors, count => "count_connectors : " ++ Text.decimal count
  | .encoders, count => "count_encoders   : " ++ Text.decimal count
  | .crtcs, count => "count_crtcs      : " ++ Text.decimal count
  | .framebuffers, count => "count_fbs        : " ++ Text.decimal count

theorem Category.countLine_mem_headerLines (category : Category) (listing : Resources) :
    category.countLine (listing.list category).length ∈ listing.headerLines := by
  cases category with
  | connectors => exact .tail _ (.tail _ (.head _))
  | encoders => exact .tail _ (.tail _ (.tail _ (.head _)))
  | crtcs => exact .tail _ (.tail _ (.tail _ (.tail _ (.head _))))
  | framebuffers => exact .tail _ (.tail _ (.tail _ (.tail _ (.tail _ (.head _)))))

theorem Category.isObject_question (options : Options) (category : Category) (id : UInt32) :
    (category.question options id).isObject = true := by
  cases category <;> rfl

namespace Report

variable {State : Type} {source : Source State}

/--
Whether a run shows an id of a category: the question for the object, and then what is shown for it
if it was found, or else the one line that it can not be had.
-/
def Shows (source : Source State) (options : Options) (category : Category) (id : UInt32)
    (visit : Run State Unit) : Prop :=
  ∃ state,
    match source.answer state (category.question options id) with
    | (.ok object, after) =>
        visit = ((found options category id object).run source after Sink.unlimited).afterExchange
          ⟨category.question options id, .ok object⟩
    | (.error cause, _) =>
        visit.exchanges = [⟨category.question options id, .error cause⟩] ∧
          visit.records = [Notice.objectMissing category.kind id cause] ∧
          visit.sink.bytes = Text.Utf8.encode (category.missingLine id)

theorem run_block_of_error {options : Options} {category : Category} {id : UInt32}
    {state after : State} {cause : IoError}
    (hanswer : source.answer state (category.question options id) = (.error cause, after)) :
    (block options category id).course source state =
      ⟨.ok (),
        [.asked ⟨category.question options id, .error cause⟩,
         .noted (Notice.objectMissing category.kind id cause),
         .wrote (category.missingLine id)], after⟩ := by
  simp only [block, Script.query, Script.bind, Script.course, hanswer]
  rfl

theorem shows_block (source : Source State) (options : Options) (category : Category)
    (id : UInt32) (state : State) :
    Shows source options category id
      ((block options category id).run source state Sink.unlimited) := by
  refine ⟨state, ?_⟩
  cases hanswer : source.answer state (category.question options id) with
  | mk answer after =>
      cases answer with
      | ok object => simp [block, Script.query, Script.bind, Script.run, hanswer]
      | error cause =>
          obtain ⟨-, hexchanges, hrecords, hbytes, -⟩ :=
            Script.run_unlimited source (block options category id) state
          rw [run_block_of_error hanswer] at hexchanges hrecords hbytes
          exact ⟨hexchanges, hrecords, by simpa using hbytes⟩

/-- A run that shows an id asks for no other listed object. -/
theorem Shows.filter_queries {options : Options} {category : Category} {id : UInt32}
    {visit : Run State Unit} (hshows : Shows source options category id visit) :
    visit.queries.filter Query.isObject = [category.question options id] := by
  obtain ⟨state, hvisit⟩ := hshows
  have hobject := category.isObject_question options id
  cases hanswer : source.answer state (category.question options id) with
  | mk answer after =>
      rw [hanswer] at hvisit
      cases answer with
      | ok object =>
          have hinner : ((found options category id object).run source after
              Sink.unlimited).queries.filter Query.isObject = [] := by
            have hasks : (found options category id object).Asks (fun _ _ => True)
                fun query => query.isObject = false :=
              (found_walks options category id object).asks
            rw [Run.queries, (Script.run_unlimited source _ after).2.1, List.filter_eq_nil_iff]
            intro query hmem
            obtain ⟨exchange, hexchange, rfl⟩ := List.mem_map.mp hmem
            have hpermitted := hasks.permitted_of_mem (fun _ _ => trivial) after hexchange
            simp [hpermitted]
          simp only at hvisit
          subst hvisit
          exact (List.filter_cons_of_pos hobject).trans
            (congrArg (category.question options id :: ·) hinner)
      | error cause => simp [Run.queries, hvisit.1, hobject]

/-! ## The visits of a report -/

def past (source : Source State) (options : Options) (listing : Resources) (category : Category)
    (state : State) : State :=
  ((part options listing category).run source state Sink.unlimited).state

/-- Where a report comes to a category, if its sections begin at a state. -/
def reached (source : Source State) (options : Options) (listing : Resources) (state : State) :
    Category -> State
  | .connectors => state
  | .encoders => past source options listing .connectors state
  | .crtcs =>
      past source options listing .encoders (past source options listing .connectors state)
  | .framebuffers =>
      past source options listing .crtcs
        (past source options listing .encoders (past source options listing .connectors state))

/-- The visits to the ids of a category: for each of them the run of its block. -/
def visits (source : Source State) (options : Options) (listing : Resources) (state : State)
    (category : Category) : List (Run State Unit) :=
  Script.rounds source (block options category) (options.wanted listing category)
    (reached source options listing state category)

theorem forall₂_rounds {ι : Type} {body : ι -> Script Unit} {holds : ι -> Run State Unit -> Prop}
    (hbody : ∀ item state, holds item ((body item).run source state Sink.unlimited))
    (items : List ι) (state : State) :
    List.Forall₂ holds items (Script.rounds source body items state) := by
  induction items generalizing state with
  | nil => exact .nil
  | cons item rest ih => exact .cons (hbody item state) (ih _)

theorem forall₂_visits (source : Source State) (options : Options) (listing : Resources)
    (state : State) (category : Category) :
    List.Forall₂ (Shows source options category) (options.wanted listing category)
      (visits source options listing state category) :=
  forall₂_rounds (fun id state => shows_block source options category id state) _ _

theorem filter_queries_of_forall₂ {options : Options} {category : Category} {ids : List UInt32}
    {visits : List (Run State Unit)}
    (hvisits : List.Forall₂ (Shows source options category) ids visits) :
    (visits.flatMap Run.queries).filter Query.isObject =
      ids.map (category.question options) := by
  induction hvisits with
  | nil => rfl
  | cons hshows _ ih =>
      rw [List.flatMap_cons, List.filter_append, hshows.filter_queries, ih]
      rfl

theorem course_part (source : Source State) (options : Options) (listing : Resources)
    (category : Category) (state : State) :
    let rounds := Script.rounds source (block options category)
      (options.wanted listing category) state
    let course := (part options listing category).course source state
    Event.exchanges course.events = rounds.flatMap Run.exchanges ∧
      Event.records course.events = rounds.flatMap Run.records ∧
      Text.Utf8.encode (Event.written course.events) =
        (rounds.flatMap fun visit => visit.sink.bytes) ++
          if options.shows category then Text.Utf8.encode category.closing else [] := by
  cases hshows : options.shows category with
  | false =>
      simp only [part, Options.wanted, Script.onlyIf, hshows, Bool.false_eq_true, if_false]
      exact ⟨rfl, rfl, rfl⟩
  | true =>
      have hplain : ∀ id ∈ listing.list category, (block options category id).Plain :=
        fun id _ => block_plain options category id
      have heach : (Script.each (block options category) (listing.list category)).Plain :=
        (Script.Walks.each fun id _ =>
          block_walks (permitsDetails_of_all options fun _ _ => True) trivial).plain
      obtain ⟨hexchanges, hrecords, hbytes⟩ := Script.course_each hplain source state
      have hclose : ∀ state', Event.exchanges ((close category).course source state').events = [] ∧
          Event.records ((close category).course source state').events = [] ∧
          Event.written ((close category).course source state').events = category.closing := by
        intro state'
        cases category <;> exact ⟨rfl, rfl, rfl⟩
      simp only [part, Options.wanted, Script.onlyIf, hshows, if_true]
      rw [heach.course_bind]
      obtain ⟨hexchanges', hrecords', hwritten'⟩ := hclose
        ((Script.each (block options category) (listing.list category)).course source state).state
      simp only [Event.exchanges_append, Event.records_append, Event.written_append,
        Text.Utf8.encode_append, hexchanges, hrecords, hbytes, hexchanges', hrecords', hwritten',
        List.append_nil, and_self]

/-- What is shown for all categories: the header, and the visits of one category after the other. -/
theorem course_body (source : Source State) (options : Options) (listing : Resources)
    (state : State) :
    let visits := visits source options listing state
    let course := (body options listing).course source state
    Event.exchanges course.events =
        (Category.all.flatMap fun category => (visits category).flatMap Run.exchanges) ∧
      Event.records course.events =
        (Category.all.flatMap fun category => (visits category).flatMap Run.records) ∧
      Text.Utf8.encode (Event.written course.events) =
        Text.Utf8.encode (Text.unlines listing.headerLines) ++
          Category.all.flatMap fun category =>
            ((visits category).flatMap fun visit => visit.sink.bytes) ++
              if options.shows category then Text.Utf8.encode category.closing else [] := by
  have hrounds : Script.rounds source (part options listing) Category.all state =
      Category.all.map fun category => (part options listing category).run source
        (reached source options listing state category) Sink.unlimited := rfl
  have hplain : ∀ category ∈ Category.all, (part options listing category).Plain :=
    fun category _ => part_plain options listing category
  obtain ⟨hexchanges, hrecords, hbytes⟩ := Script.course_each hplain source state
  have hheader : ((body options listing).course source state).events =
      .wrote (Text.unlines listing.headerLines) ::
        ((Script.each (part options listing) Category.all).course source state).events := by
    rw [body_eq_parts]
    rfl
  have hpart := fun category => course_part source options listing category
    (reached source options listing state category)
  have hrun := fun category => Script.run_unlimited source (part options listing category)
    (reached source options listing state category)
  simp only [hheader, Event.exchanges_wrote_cons, Event.records_wrote_cons,
    Event.written_wrote_cons, Text.Utf8.encode_append, hexchanges, hrecords, hbytes, hrounds,
    List.flatMap_map]
  refine ⟨?_, ?_, congrArg (_ ++ ·) ?_⟩
  · exact List.flatMap_congr fun category _ => (hrun category).2.1.trans (hpart category).1
  · exact List.flatMap_congr fun category _ => (hrun category).2.2.1.trans (hpart category).2.1
  · exact List.flatMap_congr fun category _ =>
      (hrun category).2.2.2.1.trans (hpart category).2.2

theorem course_script_of_ok {options : Options} {listing : Resources} {state after : State}
    (hlisting : source.answer state .resources = (.ok listing, after)) :
    (script options).course source state =
      ⟨.ok (),
        .asked ⟨.resources, .ok listing⟩ :: ((body options listing).course source after).events ++
          [.flushed],
        ((body options listing).course source after).state⟩ := by
  have hbody := (body_plain options listing).course_bind source (fun _ => Script.settle) after
  simp only [script, Script.query, Script.bind_eq, Script.bind, Script.course, hlisting, hbody]
  rfl

theorem course_script_of_error {options : Options} {cause : IoError} {state after : State}
    (hlisting : source.answer state .resources = (.error cause, after)) :
    (script options).course source state =
      ⟨.error (.resources cause),
        [.asked ⟨.resources, .error cause⟩, .wrote "Failed to get resources from card\n"],
        after⟩ := by
  simp only [script, Script.query, Script.bind_eq, Script.bind, Script.course, hlisting]
  rfl

/-- The run of a report whose card tells its lists, on a sink that never fails. -/
theorem run_script_of_ok {options : Options} {listing : Resources} {state after : State}
    (hlisting : source.answer state .resources = (.ok listing, after)) (sink : Sink) :
    let run := (script options).run source state sink.unhindered
    let visits := visits source options listing after
    run.outcome = .ok () ∧
      run.exchanges = ⟨.resources, .ok listing⟩ ::
        (Category.all.flatMap fun category => (visits category).flatMap Run.exchanges) ∧
      run.sink.bytes = sink.bytes ++
        (Text.Utf8.encode (Text.unlines listing.headerLines) ++
          Category.all.flatMap fun category =>
            ((visits category).flatMap fun visit => visit.sink.bytes) ++
              if options.shows category then Text.Utf8.encode category.closing else []) := by
  intro run visits
  obtain ⟨houtcome, hexchanges, -, hbytes⟩ :=
    Script.run_unhindered source (script options) state sink
  obtain ⟨hasked, -, hwritten⟩ := course_body source options listing after
  rw [course_script_of_ok hlisting] at houtcome hexchanges hbytes
  simp only [List.cons_append, Event.exchanges_asked_cons, Event.exchanges_append,
    Event.exchanges_flushed_cons, Event.exchanges_nil, List.append_nil, hasked] at hexchanges
  simp only [List.cons_append, Event.written_asked_cons, Event.written_append,
    Event.written_flushed_cons, Event.written_nil, String.append_empty, hwritten] at hbytes
  exact ⟨houtcome, hexchanges, hbytes⟩

theorem questions_wanted (options : Options) (listing : Resources) :
    (Category.all.flatMap fun category =>
        (options.wanted listing category).map (category.question options)) =
      (if options.connectors then
        listing.connectors.map fun id => .connector id (!options.current) else []) ++
      (if options.encoders then listing.encoders.map .encoder else []) ++
      (if options.crtcs then listing.crtcs.map .crtc else []) ++
      (if options.framebuffers then listing.framebuffers.map .framebuffer else []) := by
  have hmap : ∀ category : Category,
      (options.wanted listing category).map (category.question options) =
        if options.shows category then
          (listing.list category).map (category.question options) else [] := by
    intro category
    rw [Options.wanted, apply_ite (List.map _), List.map_nil]
  simp only [Category.all, List.flatMap_cons, List.flatMap_nil, List.append_nil, hmap,
    List.append_assoc]
  rfl

theorem filter_queries_of_visits {options : Options} {listing : Resources}
    {visits : Category -> List (Run State Unit)}
    (hvisits : ∀ category, List.Forall₂ (Shows source options category)
      (options.wanted listing category) (visits category)) :
    ((Category.all.flatMap fun category => (visits category).flatMap Run.exchanges).map
        Exchange.query).filter Query.isObject =
      Category.all.flatMap fun category =>
        (options.wanted listing category).map (category.question options) := by
  rw [List.map_flatMap, List.filter_flatMap]
  refine List.flatMap_congr fun category _ => ?_
  rw [← filter_queries_of_forall₂ (hvisits category), List.map_flatMap]
  rfl

theorem question_mem_queries {options : Options} {listing : Resources} {state after : State}
    (hlisting : source.answer state .resources = (.ok listing, after)) {category : Category}
    (hshows : options.shows category = true) {id : UInt32} (hid : id ∈ listing.list category) :
    category.question options id ∈ ((script options).run source state Sink.unlimited).queries := by
  have hexchanges : ((script options).run source state Sink.unlimited).exchanges =
      ⟨.resources, .ok listing⟩ :: Category.all.flatMap fun category =>
        (visits source options listing after category).flatMap Run.exchanges :=
    (run_script_of_ok hlisting Sink.unlimited).2.1
  have hquestions := filter_queries_of_visits fun category =>
    forall₂_visits source options listing after category
  have hasked : category.question options id ∈ Category.all.flatMap fun category =>
      (options.wanted listing category).map (category.question options) := by
    refine List.mem_flatMap.mpr ⟨category, ?_, List.mem_map_of_mem ?_⟩
    · cases category <;> decide
    · rwa [Options.wanted, if_pos hshows]
  rw [← hquestions] at hasked
  rw [Run.queries, hexchanges]
  exact List.mem_cons_of_mem _ (List.mem_of_mem_filter hasked)

/--
A report on a sink that never fails shows every listed object of the categories asked for, whatever
else the card refuses: it succeeds, it asks for exactly these objects in the order of the lists, and
its text is the header with the visits to them, each of which is the block of the object or the one
line that it can not be had.  There are as many visits to a category as the header counts.  If the
card withholds its lists, nothing else is asked, and one line says so.
-/
theorem run_shows_every_listed_object (source : Source State) (state : State)
    (options : Options) (sink : Sink) :
    let run := (script options).run source state sink.unhindered
    match source.answer state .resources with
    | (.ok listing, _) =>
        run.outcome = .ok () ∧
          run.queries.filter Query.isObject =
            (if options.connectors then
              listing.connectors.map fun id => .connector id (!options.current) else []) ++
            (if options.encoders then listing.encoders.map .encoder else []) ++
            (if options.crtcs then listing.crtcs.map .crtc else []) ++
            (if options.framebuffers then listing.framebuffers.map .framebuffer else []) ∧
          ∃ visits : Category -> List (Run State Unit),
            (∀ category, List.Forall₂ (Shows source options category)
              (options.wanted listing category) (visits category)) ∧
            (∀ category, options.shows category = true ->
              category.countLine (visits category).length ∈ listing.headerLines) ∧
            run.exchanges = ⟨.resources, .ok listing⟩ ::
              (Category.all.flatMap fun category => (visits category).flatMap Run.exchanges) ∧
            run.sink.bytes = sink.bytes ++
              (Text.Utf8.encode (Text.unlines listing.headerLines) ++
                Category.all.flatMap fun category =>
                  ((visits category).flatMap fun visit => visit.sink.bytes) ++
                    if options.shows category then Text.Utf8.encode category.closing else [])
    | (.error cause, _) =>
        run.outcome = .error (.resources cause) ∧
          (Failure.resources cause).chain =
            ["Failed to get resources from card", cause.message] ∧
          run.exchanges = [⟨.resources, .error cause⟩] ∧
          run.sink.bytes =
            sink.bytes ++ Text.Utf8.encode "Failed to get resources from card\n" := by
  cases hlisting : source.answer state .resources with
  | mk answer after =>
      cases answer with
      | error cause =>
          obtain ⟨houtcome, hexchanges, -, hbytes⟩ :=
            Script.run_unhindered source (script options) state sink
          rw [course_script_of_error hlisting] at houtcome hexchanges hbytes
          exact ⟨houtcome, rfl, hexchanges, by simpa using hbytes⟩
      | ok listing =>
          have hvisits := forall₂_visits source options listing after
          obtain ⟨houtcome, hexchanges, hbytes⟩ := run_script_of_ok hlisting sink
          refine ⟨houtcome, ?_, visits source options listing after, hvisits, ?_, hexchanges,
            hbytes⟩
          · rw [Run.queries, hexchanges, List.map_cons,
              List.filter_cons_of_neg (by simp [Query.isObject]),
              filter_queries_of_visits hvisits, questions_wanted]
          · intro category hshows
            have hlength := (hvisits category).length_eq
            rw [Options.wanted, if_pos hshows] at hlength
            rw [← hlength]
            exact category.countLine_mem_headerLines listing

end Report

end DisplayInventory
