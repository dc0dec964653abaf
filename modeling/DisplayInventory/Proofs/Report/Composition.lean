import DisplayInventory.Card.Memory
import DisplayInventory.Proofs.Report.Enumeration

/-!
# A report is put together from its blocks

On a card without faults the block of an id depends on the object and on the chosen details only:
not on the other lists, not on the categories shown besides, and not on what was asked before.  So
the blocks can be had one by one, from reports on a single id, and every report on the card is these
blocks in a row.  That nothing of a card but its lists matters to where a block stands, and nothing
but its objects to what is in it, is what the two halves of this file say.
-/

namespace DisplayInventory

/-! ## Other lists and other categories -/

/-- Every category stands between those before it and those behind it. -/
theorem Category.exists_all_eq (category : Category) :
    ∃ earlier later,
      all = earlier ++ category :: later ∧ category ∉ earlier ∧ category ∉ later := by
  cases category with
  | connectors => exact ⟨[], [.encoders, .crtcs, .framebuffers], rfl, by decide, by decide⟩
  | encoders => exact ⟨[.connectors], [.crtcs, .framebuffers], rfl, by decide, by decide⟩
  | crtcs => exact ⟨[.connectors, .encoders], [.framebuffers], rfl, by decide, by decide⟩
  | framebuffers => exact ⟨[.connectors, .encoders, .crtcs], [], rfl, by decide, by decide⟩

theorem Category.encode_closing (category : Category) :
    Text.Utf8.encode category.closing =
      if category = .framebuffers then [] else Text.Utf8.encode "\n" := by
  cases category <;> rfl

/-- Cards that answer alike, but for the lists of ids. -/
def Card.Alike (card other : Card) : Prop :=
  ∀ query, query ≠ .resources -> card.answer query = other.answer query

theorem Card.Alike.refl (card : Card) : card.Alike card :=
  fun _ _ => rfl

theorem Card.alike_withList (card : Card) (category : Category) (ids : List UInt32) :
    (card.withList category ids).Alike card := by
  intro query hquery
  cases query with
  | resources => exact absurd rfl hquery
  | connector id force => rfl
  | encoder id => rfl
  | crtc id => rfl
  | framebuffer id => rfl
  | property id => rfl
  | blob id => rfl

namespace Options

def showing (options : Options) (shown : Category -> Bool) : Options :=
  { options with
    connectors := shown .connectors
    encoders := shown .encoders
    crtcs := shown .crtcs
    framebuffers := shown .framebuffers }

def showingOnly (options : Options) (category : Category) : Options :=
  options.showing fun other => other = category

def showingIf (options : Options) (category : Category) (wanted : Bool) : Options :=
  options.showing fun other => if other = category then wanted else options.shows other

@[simp] theorem shows_showing (options : Options) (shown : Category -> Bool)
    (category : Category) : (options.showing shown).shows category = shown category := by
  cases category <;> rfl

theorem showingIf_shows (options : Options) (category : Category) :
    options.showingIf category (options.shows category) = options := by
  cases category <;> rfl

/-- What a category adds to a report: a piece for every id, and the closing behind them. -/
def stretch {β : Type} (options : Options) (listing : Resources)
    (piece : Category -> UInt32 -> List β) (closing : Category -> List β)
    (category : Category) : List β :=
  if options.shows category then
    (listing.list category).flatMap (piece category) ++ closing category
  else []

def compose {β : Type} (options : Options) (listing : Resources)
    (piece : Category -> UInt32 -> List β) (closing : Category -> List β) : List β :=
  Category.all.flatMap (options.stretch listing piece closing)

section Compose

variable {β : Type} (options : Options) (listing : Resources)
  (piece : Category -> UInt32 -> List β) (closing : Category -> List β)

/-- What stands around a category is the same whether and for whichever ids that is shown. -/
theorem exists_compose_eq_around (category : Category) :
    ∃ before after : List β, ∀ ids wanted,
      (options.showingIf category wanted).compose (listing.withList category ids) piece closing =
        before ++ (if wanted then ids.flatMap (piece category) ++ closing category else []) ++
          after := by
  obtain ⟨earlier, later, hall, hearlier, hlater⟩ := category.exists_all_eq
  refine ⟨earlier.flatMap (options.stretch listing piece closing),
    later.flatMap (options.stretch listing piece closing), fun ids wanted => ?_⟩
  have hother : ∀ others : List Category, category ∉ others ->
      others.flatMap
          ((options.showingIf category wanted).stretch (listing.withList category ids) piece
            closing) =
        others.flatMap (options.stretch listing piece closing) := by
    intro others hothers
    refine List.flatMap_congr fun other hmem => ?_
    have hne : other ≠ category := fun hsame => hothers (hsame ▸ hmem)
    simp only [stretch, showingIf, shows_showing, if_neg hne,
      listing.list_withList_of_ne ids hne]
  have hself :
      (options.showingIf category wanted).stretch (listing.withList category ids) piece closing
        category = if wanted then ids.flatMap (piece category) ++ closing category else [] := by
    simp only [stretch, showingIf, shows_showing, if_pos, listing.list_withList_self]
  rw [compose, hall, List.flatMap_append, List.flatMap_cons, hother earlier hearlier,
    hother later hlater, hself, List.append_assoc]

theorem compose_showingOnly (category : Category) (ids : List UInt32) :
    (options.showingOnly category).compose (listing.withList category ids) piece closing =
      ids.flatMap (piece category) ++ closing category := by
  obtain ⟨earlier, later, hall, hearlier, hlater⟩ := category.exists_all_eq
  have hother : ∀ others : List Category, category ∉ others ->
      others.flatMap
        ((options.showingOnly category).stretch (listing.withList category ids) piece closing) =
          [] := by
    intro others hothers
    rw [List.flatMap_eq_nil_iff]
    intro other hmem
    have hne : other ≠ category := fun hsame => hothers (hsame ▸ hmem)
    simp [stretch, showingOnly, hne]
  rw [compose, hall, List.flatMap_append, List.flatMap_cons, hother earlier hearlier,
    hother later hlater]
  simp [stretch, showingOnly, listing.list_withList_self]

end Compose

end Options

theorem Resources.withList_list (listing : Resources) (category : Category) :
    listing.withList category (listing.list category) = listing := by
  cases category <;> rfl

theorem Card.listing_withList (card : Card) (category : Category) (ids : List UInt32) :
    (card.withList category ids).listing = card.listing.withList category ids := rfl

theorem Card.withList_list (card : Card) (category : Category) :
    card.withList category (card.listing.list category) = card := by
  rw [withList, Resources.withList_list]

theorem Resources.headerLines_withList_of_perm (listing : Resources) {category : Category}
    {ids : List UInt32} (hperm : ids.Perm (listing.list category)) :
    (listing.withList category ids).headerLines = listing.headerLines := by
  have hlength := hperm.length_eq
  cases category <;> simp_all [headerLines, withList, list]

namespace Report

/-! ## The block of an id -/

/-- The run of the block of an id by itself, on a card without faults. -/
def visit (card : Card) (options : Options) (category : Category) (id : UInt32) : Run Nat Unit :=
  (block options category id).run (card.source []) 0 Sink.unlimited

theorem block_showing (options : Options) (shown : Category -> Bool) :
    block (options.showing shown) = block options := by
  funext category id
  cases category with
  | framebuffers => rw [← framebuffer_eq_block, ← framebuffer_eq_block]
  | _ =>
      refine congrArg (Script.ask _) (funext fun answer => ?_)
      cases answer <;> rfl

theorem visit_showing (card : Card) (options : Options) (shown : Category -> Bool) :
    visit card (options.showing shown) = visit card options := by
  unfold visit
  rw [block_showing]

/-- A block is shown alike at any time, and on any card that answers alike but for the lists. -/
theorem seen_run_block {card other : Card} (halike : card.Alike other) (options : Options)
    (category : Category) (id : UInt32) (asked : Nat) :
    ((block options category id).run (card.source []) asked Sink.unlimited).seen =
      (visit other options category id).seen := by
  have hdetails : PermitsDetails options (fun _ _ => True) fun query => query ≠ .resources := by
    intro id connector _
    exact ⟨fun _ _ => nofun, fun _ _ => nofun⟩
  have hquestion : category.question options id ≠ .resources := by
    cases category <;> nofun
  have hagree : Script.Agree (fun _ _ => True) (fun query => query ≠ .resources)
      (fun _ _ => True) (card.source []) (other.source []) :=
    fun _ _ query _ hquery => ⟨halike query hquery, trivial, trivial⟩
  exact And.left ((block_walks hdetails hquestion).asks.seen_run_eq hagree trivial Sink.unlimited)

theorem flatMap_visits {β : Type} {card other : Card} (halike : card.Alike other)
    (options : Options) (listing : Resources) (asked : Nat) (category : Category)
    (yield : Run Unit Unit -> List β) :
    ((visits (card.source []) options listing asked category).flatMap fun run =>
        yield run.seen) =
      (options.wanted listing category).flatMap fun id =>
        yield (visit other options category id).seen := by
  have hseen := Script.map_seen_rounds
    (fun id asked => seen_run_block halike options category id asked)
    (options.wanted listing category)
    (reached (card.source []) options listing asked category)
  have hyield := congrArg (List.flatMap yield) hseen
  rwa [List.flatMap_map, List.flatMap_map] at hyield

theorem flatMap_visits_eq_compose {β : Type} {card other : Card} (halike : card.Alike other)
    (options : Options) (listing : Resources) (asked : Nat) (yield : Run Unit Unit -> List β)
    (closing : Category -> List β) :
    (Category.all.flatMap fun category =>
        ((visits (card.source []) options listing asked category).flatMap fun run =>
          yield run.seen) ++ if options.shows category then closing category else []) =
      options.compose listing (fun category id => yield (visit other options category id).seen)
        closing := by
  refine List.flatMap_congr fun category _ => ?_
  rw [flatMap_visits halike, Options.wanted, Options.stretch]
  by_cases hshows : options.shows category = true
  · rw [if_pos hshows, if_pos hshows, if_pos hshows]
  · rw [if_neg hshows, if_neg hshows, if_neg hshows]
    rfl

/-! ## Whole reports -/

/-- A report is put together from the blocks of any card that answers alike. -/
theorem run_eq_compose {card other : Card} (halike : card.Alike other)
    (hlisting : card.listingFailure = none) (options : Options) (asked : Nat) (sink : Sink) :
    let run := (script options).run (card.source []) asked sink.unhindered
    run.outcome = .ok () ∧
      run.sink.bytes = sink.bytes ++ Text.Utf8.encode (Text.unlines card.listing.headerLines) ++
        options.compose card.listing
          (fun category id => (visit other options category id).sink.bytes)
          (fun category => Text.Utf8.encode category.closing) ∧
      run.queries = .resources ::
        options.compose card.listing (fun category id => (visit other options category id).queries)
          fun _ => [] := by
  intro run
  have hanswer : (card.source []).answer asked .resources = (.ok card.listing, asked + 1) := by
    simp [Card.source, Source.planned, FaultPlan.failure?, Table.findIn, Card.answer, hlisting]
  obtain ⟨houtcome, hexchanges, hbytes⟩ := run_script_of_ok hanswer sink
  have htext := flatMap_visits_eq_compose halike options card.listing (asked + 1)
    (fun seen => seen.sink.bytes) fun category => Text.Utf8.encode category.closing
  have hasked := flatMap_visits_eq_compose halike options card.listing (asked + 1)
    (fun seen => seen.queries) fun _ => []
  simp only [ite_self, List.append_nil] at hasked
  refine ⟨houtcome, ?_, ?_⟩
  · rw [hbytes, List.append_assoc]
    exact congrArg (fun text => sink.bytes ++ (_ ++ text)) htext
  · rw [Run.queries, hexchanges, List.map_cons, List.map_flatMap]
    refine congrArg (Query.resources :: ·) (Eq.trans ?_ hasked)
    exact List.flatMap_congr fun category _ => List.map_flatMap

/-- What stands around a category stays, whichever ids are listed in it and whether it is shown. -/
theorem exists_run_eq_around (card : Card) (hlisting : card.listingFailure = none)
    (options : Options) (asked : Nat) (sink : Sink) (category : Category) :
    let text := fun id => (visit card options category id).sink.bytes
    let questions := fun id => (visit card options category id).queries
    ∃ before after first last, ∀ ids wanted,
      let changed := card.withList category ids
      let run := (script (options.showingIf category wanted)).run (changed.source []) asked
        sink.unhindered
      run.sink.bytes = sink.bytes ++ Text.Utf8.encode (Text.unlines changed.listing.headerLines) ++
          (before ++ (if wanted then ids.flatMap text ++
            if category = .framebuffers then [] else Text.Utf8.encode "\n" else []) ++ after) ∧
        run.queries = .resources ::
          (first ++ (if wanted then ids.flatMap questions else []) ++ last) := by
  intro text questions
  obtain ⟨before, after, htext⟩ := options.exists_compose_eq_around card.listing
    (fun category id => (visit card options category id).sink.bytes)
    (fun category => Text.Utf8.encode category.closing) category
  obtain ⟨first, last, hquestions⟩ := options.exists_compose_eq_around card.listing
    (fun category id => (visit card options category id).queries) (fun _ => []) category
  refine ⟨before, after, first, last, fun ids wanted => ?_⟩
  obtain ⟨-, hbytes, hqueries⟩ := run_eq_compose (card.alike_withList category ids) hlisting
    (options.showingIf category wanted) asked sink
  rw [Options.showingIf, visit_showing, ← Options.showingIf] at hbytes hqueries
  constructor
  · rw [← category.encode_closing, ← htext]
    exact hbytes
  · have hclosed := hquestions ids wanted
    simp only [List.append_nil] at hclosed
    rw [← hclosed]
    exact hqueries

/--
A report on a card without faults is put together from blocks.  Its text is the header and, for the
categories shown, the blocks of the listed ids in order with the closing behind them; its questions
are those of the blocks in the same order.  The block of an id is what a report with the same
details writes that shows this category only, of a card that lists this id only.  Around a category
nothing changes if it is shown or dropped, or if its list is another one; and if its ids change
places, then so do its blocks in the text, below the same header.
-/
theorem run_composed_of_blocks (card : Card) (hlisting : card.listingFailure = none)
    (options : Options) (asked : Nat) (sink : Sink) :
    let report := fun (card : Card) (options : Options) =>
      (script options).run (card.source []) asked sink.unhindered
    let header := fun card : Card =>
      sink.bytes ++ Text.Utf8.encode (Text.unlines
        ["Resources",
         "",
         "count_connectors : " ++ Text.decimal card.listing.connectors.length,
         "count_encoders   : " ++ Text.decimal card.listing.encoders.length,
         "count_crtcs      : " ++ Text.decimal card.listing.crtcs.length,
         "count_fbs        : " ++ Text.decimal card.listing.framebuffers.length,
         ""])
    let block := visit card options
    let text := fun category id => (block category id).sink.bytes
    let questions := fun category id => (block category id).queries
    let closing := fun category : Category =>
      if category = .framebuffers then [] else Text.Utf8.encode "\n"
    ((report card options).outcome = .ok () ∧
        (report card options).sink.bytes =
          header card ++ options.compose card.listing text closing ∧
        (report card options).queries =
          .resources :: options.compose card.listing questions fun _ => []) ∧
      (∀ category id,
        let single := card.withList category [id]
        let alone := report single (options.showingOnly category)
        alone.sink.bytes = header single ++ text category id ++ closing category ∧
          alone.queries = .resources :: questions category id) ∧
      (∀ category, ∃ before after first last, ∀ ids wanted,
        let changed := card.withList category ids
        let run := report changed (options.showingIf category wanted)
        run.sink.bytes = header changed ++ (before ++
            (if wanted then ids.flatMap (text category) ++ closing category else []) ++ after) ∧
          run.queries = .resources ::
            (first ++ (if wanted then ids.flatMap (questions category) else []) ++ last)) ∧
      ∀ category, ∃ before after,
        let around := fun ids : List UInt32 =>
          header card ++ (before ++ (if options.shows category then
            ids.flatMap (text category) ++ closing category else []) ++ after)
        (report card options).sink.bytes = around (card.listing.list category) ∧
          ∀ ids, ids.Perm (card.listing.list category) ->
            (report (card.withList category ids) options).sink.bytes = around ids := by
  intro report header block text questions closing
  have hclosing : (fun category : Category => Text.Utf8.encode category.closing) = closing :=
    funext Category.encode_closing
  have hwhole := run_eq_compose (Card.Alike.refl card) hlisting options asked sink
  rw [hclosing] at hwhole
  refine ⟨hwhole, ?_, ?_, ?_⟩
  · intro category id
    obtain ⟨-, hbytes, hqueries⟩ := run_eq_compose (card.alike_withList category [id]) hlisting
      (options.showingOnly category) asked sink
    rw [Options.showingOnly, visit_showing, ← Options.showingOnly] at hbytes hqueries
    rw [hclosing] at hbytes
    have htext : (options.showingOnly category).compose (card.withList category [id]).listing text
        closing = text category id ++ closing category :=
      (options.compose_showingOnly card.listing text closing category [id]).trans (by simp)
    have hquestions : (options.showingOnly category).compose (card.withList category [id]).listing
        questions (fun _ => []) = questions category id :=
      (options.compose_showingOnly card.listing questions _ category [id]).trans (by simp)
    constructor
    · rw [List.append_assoc, ← htext]
      exact hbytes
    · rw [← hquestions]
      exact hqueries
  · exact fun category => exists_run_eq_around card hlisting options asked sink category
  · intro category
    obtain ⟨before, after, first, last, haround⟩ :=
      exists_run_eq_around card hlisting options asked sink category
    refine ⟨before, after, ?_, fun ids hperm => ?_⟩
    · have hbytes := (haround (card.listing.list category) (options.shows category)).1
      rw [Options.showingIf_shows, Card.withList_list] at hbytes
      exact hbytes
    · have hbytes := (haround ids (options.shows category)).1
      rw [Options.showingIf_shows, Card.listing_withList,
        card.listing.headerLines_withList_of_perm hperm] at hbytes
      exact hbytes

/-- The block of an encoder that is listed twice stands twice below the header. -/
theorem run_with_encoder_listed_twice :
    let card : Card :=
      { listing := { encoders := [40, 41, 40] }
        encoders := Table.ofList [(40, .ok { encoderType := 2 })] }
    let options : Options := { encoders := true }
    let run := (script options).run (card.source []) 0 Sink.unlimited.unhindered
    let text := fun id => (visit card options .encoders id).sink.bytes
    card.listingFailure = none ∧ run.outcome = .ok () ∧
      run.sink.bytes = Text.Utf8.encode (Text.unlines
          ["Resources", "", "count_connectors : 0", "count_encoders   : 3", "count_crtcs      : 0",
           "count_fbs        : 0", ""]) ++
        (text 40 ++ text 41 ++ text 40 ++ Text.Utf8.encode "\n") ∧
      run.queries = [.resources, .encoder 40, .encoder 41, .encoder 40] := by
  intro card options run text
  obtain ⟨⟨houtcome, hbytes, hqueries⟩, -⟩ :=
    run_composed_of_blocks card rfl options 0 Sink.unlimited
  refine ⟨rfl, houtcome, ?_, hqueries.trans rfl⟩
  have hheader : card.listing.headerLines =
      ["Resources", "", "count_connectors : 0", "count_encoders   : 3", "count_crtcs      : 0",
        "count_fbs        : 0", ""] := by
    decide
  rw [← hheader]
  refine hbytes.trans (congrArg (Text.Utf8.encode (Text.unlines card.listing.headerLines) ++ ·) ?_)
  simp [Options.compose, Category.all, Options.stretch, Options.shows, Resources.list,
    card, options, text]

end Report

end DisplayInventory
