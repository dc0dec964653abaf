import DisplayInventory.Card.Samples
import DisplayInventory.Proofs.Report.Enumeration
import DisplayInventory.Proofs.Text.Readback

/-!
# Blocks of numbers are read back

The header of a report, an encoder, a framebuffer and a mode in full style are lines with one
number each.  The lines of a block say where it ends, so a report on encoders alone tells every
encoder that was asked for, and which of them could not be had; a report on framebuffers alone tells
their numbers, and the ids of those that could not be had; and a list of modes is told by its full
style.
-/

namespace DisplayInventory

/-! ## Blocks of objects -/

/-- The four numbers of the header. -/
theorem Resources.delimits_headerLines :
    Text.Delimits headerLines fun listing category => (listing.list category).length where
  nonempty := fun _ => List.cons_ne_nil _ _
  split := by
    intro listing listing' rest rest' heq
    simp only [headerLines, List.cons_append, List.nil_append, List.cons.injEq, true_and,
      String.append_right_inj, Text.decimal_eq_decimal] at heq
    obtain ⟨hconnectors, hencoders, hcrtcs, hframebuffers, hrest⟩ := heq
    refine ⟨funext fun category => ?_, hrest⟩
    cases category with
    | connectors => exact hconnectors
    | encoders => exact hencoders
    | crtcs => exact hcrtcs
    | framebuffers => exact hframebuffers

theorem Mode.split_fullLines {mode mode' : Mode} {rest rest' : List String}
    (heq : mode.fullLines ++ rest = mode'.fullLines ++ rest') : mode = mode' ∧ rest = rest' := by
  simp only [fullLines, numbers, List.map_cons, List.map_nil, List.cons_append, List.nil_append,
    List.cons.injEq, String.append_right_inj, Text.field_eq_field, Text.decimal_eq_decimal,
    UInt32.toNat_inj, UInt16.toNat_inj] at heq
  obtain ⟨hname, hclock, hhdisplay, hhstart, hhend, hhtotal, hhskew, hvdisplay, hvstart, hvend,
    hvtotal, hvscan, hvrefresh, hflags, hrest⟩ := heq
  have htiming : mode.toTiming = mode'.toTiming := by
    rcases mode with ⟨timing, _⟩
    rcases mode' with ⟨timing', _⟩
    cases timing
    cases timing'
    simp only [Timing.mk.injEq]
    exact ⟨hclock, hhdisplay, hhstart, hhend, hhtotal, hhskew, hvdisplay, hvstart, hvend, hvtotal,
      hvscan, hvrefresh, hflags⟩
  refine ⟨?_, hrest⟩
  cases mode
  cases mode'
  simp only [Mode.mk.injEq]
  exact ⟨htiming, hname⟩

theorem Mode.delimits_fullLines : Text.Delimits fullLines id where
  nonempty := fun _ => List.cons_ne_nil _ _
  split := split_fullLines

theorem Encoder.split_lines {debug : Bool} {id id' : UInt32} {encoder encoder' : Encoder}
    {rest rest' : List String}
    (heq : encoder.lines debug id ++ rest = encoder'.lines debug id' ++ rest') :
    id = id' ∧ encoder = encoder' ∧ rest = rest' := by
  simp only [lines, List.cons_append, List.nil_append, List.cons.injEq, String.append_right_inj,
    Text.decimal_eq_decimal, Text.Hex.lower_eq_lower, UInt32.toNat_inj] at heq
  obtain ⟨-, hid, hcrtc, htype, hcrtcs, hclones, hlater⟩ := heq
  have hencoder : encoder = encoder' := by
    cases encoder
    cases encoder'
    simp only [Encoder.mk.injEq]
    exact ⟨htype, hcrtc, hcrtcs, hclones⟩
  subst hid hencoder
  exact ⟨rfl, rfl, List.append_cancel_left hlater⟩

theorem Framebuffer.split_lines {framebuffer framebuffer' : Framebuffer} {rest rest' : List String}
    (heq : framebuffer.lines ++ rest = framebuffer'.lines ++ rest') :
    framebuffer = framebuffer' ∧ rest = rest' := by
  simp only [lines, List.cons_append, List.nil_append, List.cons.injEq, true_and,
    Text.field_eq_field, Text.decimal_eq_decimal, UInt32.toNat_inj] at heq
  obtain ⟨hhandle, hwidth, hheight, hpitch, hbpp, hdepth, -, hrest⟩ := heq
  refine ⟨?_, hrest⟩
  cases framebuffer
  cases framebuffer'
  simp only [Framebuffer.mk.injEq]
  exact ⟨hhandle, hwidth, hheight, hpitch, hbpp, hdepth⟩

/-! ## Their lines -/

theorem Resources.unbroken_headerLines (listing : Resources) :
    ∀ line ∈ listing.headerLines, Text.Unbroken line := by
  intro line hline
  simp only [headerLines, List.mem_cons, List.not_mem_nil, or_false] at hline
  rcases hline with rfl | rfl | rfl | rfl | rfl | rfl | rfl
  · decide
  · decide
  · exact Text.unbroken_numbered (by decide) _
  · exact Text.unbroken_numbered (by decide) _
  · exact Text.unbroken_numbered (by decide) _
  · exact Text.unbroken_numbered (by decide) _
  · decide

theorem Encoder.unbroken_heading (encoder : Encoder) : Text.Unbroken encoder.heading := by
  have hnames : ∀ name ∈ Codes.encoderTypes, Text.Unbroken name := by decide
  unfold heading
  cases htype : Codes.encoderType? encoder.encoderType with
  | none => exact (by decide : Text.Unbroken "Encoder")
  | some name =>
      exact Text.unbroken_append.mpr ⟨by decide, hnames name (List.mem_of_getElem? htype)⟩

theorem Encoder.unbroken_lines (debug : Bool) (id : UInt32) (encoder : Encoder) :
    ∀ line ∈ encoder.lines debug id, Text.Unbroken line := by
  intro line hline
  rcases List.mem_append.mp hline with hplain | hmap
  · simp only [List.mem_cons, List.not_mem_nil, or_false] at hplain
    rcases hplain with rfl | rfl | rfl | rfl | rfl | rfl
    · exact encoder.unbroken_heading
    · exact Text.unbroken_numbered (by decide) _
    · exact Text.unbroken_numbered (by decide) _
    · exact Text.unbroken_numbered (by decide) _
    · exact Text.Hex.unbroken_mask (by decide) _
    · exact Text.Hex.unbroken_mask (by decide) _
  · cases debug with
    | false => exact absurd hmap List.not_mem_nil
    | true =>
        rw [List.mem_singleton.mp hmap]
        have hfirst : Text.Unbroken ("Encoder map: " ++ Text.decimal id.toNat) :=
          Text.unbroken_numbered (by decide) _
        have hboth : Text.Unbroken ("Encoder map: " ++ Text.decimal id.toNat ++ " to ") :=
          Text.unbroken_append.mpr ⟨hfirst, by decide⟩
        exact Text.unbroken_numbered hboth _

theorem Framebuffer.unbroken_lines (framebuffer : Framebuffer) :
    ∀ line ∈ framebuffer.lines, Text.Unbroken line := by
  intro line hline
  simp only [lines, List.mem_cons, List.not_mem_nil, or_false] at hline
  rcases hline with rfl | rfl | rfl | rfl | rfl | rfl | rfl | rfl
  · decide
  all_goals exact Text.unbroken_numberField (by decide) _

theorem Mode.unbroken_fullLines {mode : Mode} (hname : Text.Unbroken mode.name) :
    ∀ line ∈ mode.fullLines, Text.Unbroken line := by
  have hlabels : ∀ number ∈ mode.numbers, Text.Unbroken number.1 := by
    have hall : ∀ label ∈ mode.numbers.map Prod.fst, Text.Unbroken label :=
      (by decide : ∀ label ∈ (({} : Mode).numbers.map Prod.fst), Text.Unbroken label)
    exact fun number hnumber => hall number.1 (List.mem_map_of_mem hnumber)
  intro line hline
  rcases List.mem_cons.mp hline with rfl | hnumber
  · exact Text.unbroken_append.mpr ⟨by decide, hname⟩
  · obtain ⟨number, hmem, rfl⟩ := List.mem_map.mp hnumber
    exact Text.unbroken_numberField (hlabels number hmem) _

/-! ## Entries of a section -/

namespace Category

def missingText (category : Category) (id : UInt32) : String :=
  "Could not get " ++ category.kind ++ " " ++ Text.decimal id.toNat

theorem missingLine_eq (category : Category) (id : UInt32) :
    category.missingLine id = Text.unlines [category.missingText id] := by
  rw [Text.unlines_cons, Text.unlines_nil, String.append_empty]
  rfl

def closingLines : Category -> List String
  | .framebuffers => []
  | _ => [""]

theorem closing_eq (category : Category) :
    category.closing = Text.unlines category.closingLines := by
  cases category <;> rfl

theorem unbroken_missingText (category : Category) (id : UInt32) :
    Text.Unbroken (category.missingText id) := by
  have hkind : Text.Unbroken ("Could not get " ++ category.kind ++ " ") := by
    cases category <;> decide
  exact Text.unbroken_numbered hkind _

theorem unbroken_closingLines (category : Category) :
    ∀ line ∈ category.closingLines, Text.Unbroken line := by
  cases category <;> decide

theorem missingText_inj {category : Category} {id id' : UInt32}
    (heq : category.missingText id = category.missingText id') : id = id' :=
  UInt32.toNat_inj.mp (Text.decimal_inj ((String.append_right_inj _).mp heq))

/-- A text with another first letter is not a line that an object can not be had. -/
theorem ne_missingText {text : String} (hfirst : text.toList.head? ≠ some 'C')
    (category : Category) (id : UInt32) : text ≠ category.missingText id := by
  rintro rfl
  refine hfirst ?_
  show ("Could not get " ++ category.kind ++ " " ++ Text.decimal id.toNat).toList.head? = some 'C'
  simp only [String.toList_append, List.append_assoc]
  rfl

/-- The lines for a listed id: those of its object, or else the one that it can not be had. -/
def entryLines {Object : Type} (category : Category) (lines : UInt32 -> Object -> List String) :
    UInt32 × Option Object -> List String
  | (id, some object) => lines id object
  | (id, none) => [category.missingText id]

/--
Entries can be told apart if blocks can, and no block begins like the line that an object can not be
had.
-/
theorem delimits_entryLines {Object Told : Type} {category : Category}
    {lines : UInt32 -> Object -> List String} {told : UInt32 × Option Object -> Told}
    (hhead : ∀ id object, ∃ first rest, lines id object = first :: rest ∧
      ∀ other, first ≠ category.missingText other)
    (hsplit : ∀ {id id' : UInt32} {object object' : Object} {rest rest' : List String},
      lines id object ++ rest = lines id' object' ++ rest' ->
        told (id, some object) = told (id', some object') ∧ rest = rest') :
    Text.Delimits (category.entryLines lines) told where
  nonempty := by
    rintro ⟨id, found⟩
    cases found with
    | none => exact List.cons_ne_nil _ _
    | some object =>
        obtain ⟨first, rest, hlines, -⟩ := hhead id object
        rw [entryLines, hlines]
        exact List.cons_ne_nil _ _
  split := by
    have hapart : ∀ {id other : UInt32} {object : Object} {rest rest' : List String},
        lines id object ++ rest ≠ category.missingText other :: rest' := by
      intro id other object rest rest' heq
      obtain ⟨first, later, hlines, hfirst⟩ := hhead id object
      rw [hlines, List.cons_append] at heq
      exact hfirst other (List.cons.inj heq).1
    rintro ⟨id, found⟩ ⟨id', found'⟩ rest rest' heq
    cases found with
    | some object =>
        cases found' with
        | some object' => exact hsplit heq
        | none => exact absurd heq hapart
    | none =>
        cases found' with
        | some object' => exact absurd heq.symm hapart
        | none =>
            obtain ⟨hline, hrest⟩ := List.cons.inj heq
            exact ⟨by rw [missingText_inj hline], hrest⟩

theorem unbroken_entryLines {Object : Type} {category : Category}
    {lines : UInt32 -> Object -> List String}
    (hlines : ∀ id object, ∀ line ∈ lines id object, Text.Unbroken line)
    (entry : UInt32 × Option Object) :
    ∀ line ∈ category.entryLines lines entry, Text.Unbroken line := by
  rcases entry with ⟨id, found⟩
  cases found with
  | some object => exact hlines id object
  | none =>
      intro line hline
      rw [List.mem_singleton.mp hline]
      exact category.unbroken_missingText id

theorem flatMap_all_of_only {Item : Type} {category : Category} {items : Category -> List Item}
    (hnone : ∀ other, other ≠ category -> items other = []) :
    all.flatMap items = items category := by
  cases category <;> simp [all, hnone]

end Category

def Options.ShowsOnly (options : Options) (category : Category) : Prop :=
  ∀ other, options.shows other = true ↔ other = category

namespace Report

variable {State : Type} {source : Source State} {state after : State} {options : Options}
  {category : Category} {listing : Resources}

/-- What is shown for an id, if the blocks of the category are text alone. -/
theorem Shows.of_text {id : UInt32} {visit : Run State Unit}
    {lines : (category.question options id).Found -> List String}
    (hshows : Shows source options category id visit)
    (htext : ∀ object,
      found options category id object = Script.text (Text.unlines (lines object))) :
    ∃ answer, visit.exchanges = [⟨category.question options id, answer⟩] ∧
      match answer with
      | .ok object => visit.sink.bytes = Text.Utf8.encode (Text.unlines (lines object))
      | .error _ =>
          visit.sink.bytes = Text.Utf8.encode (Text.unlines [category.missingText id]) := by
  obtain ⟨state, hvisit⟩ := hshows
  cases hanswer : source.answer state (category.question options id) with
  | mk answer after =>
      rw [hanswer] at hvisit
      cases answer with
      | error cause =>
          obtain ⟨hexchanges, -, hbytes⟩ := hvisit
          refine ⟨.error cause, hexchanges, ?_⟩
          rw [← category.missingLine_eq id]
          exact hbytes
      | ok object =>
          obtain ⟨-, hexchanges, -, hbytes, -⟩ :=
            Script.run_unlimited source (found options category id object) after
          have hwritten : Event.written ((found options category id object).course source
              after).events = Text.unlines (lines object) := by
            rw [htext object]
            simp [Script.text, Script.course]
          rw [hwritten] at hbytes
          rw [htext object] at hexchanges
          refine ⟨.ok object, ?_, ?_⟩
          · rw [hvisit, htext object]
            exact congrArg (_ :: ·) hexchanges
          · rw [hvisit]
            exact hbytes

/-- A report on one category is the header, the visits to its ids, and the line that closes it. -/
theorem run_script_of_only (honly : options.ShowsOnly category)
    (hlisting : source.answer state .resources = (.ok listing, after)) (sink : Sink) :
    let run := (script options).run source state sink.unhindered
    ∃ visits, List.Forall₂ (Shows source options category) (listing.list category) visits ∧
      run.exchanges = ⟨.resources, .ok listing⟩ :: visits.flatMap Run.exchanges ∧
      run.sink.bytes = sink.bytes ++
        (Text.Utf8.encode (Text.unlines listing.headerLines) ++
          ((visits.flatMap fun visit => visit.sink.bytes) ++
            Text.Utf8.encode category.closing)) := by
  intro run
  have hrun := @run_script_of_ok State source options listing state after hlisting sink
  obtain ⟨-, hexchanges, hbytes⟩ := hrun
  have hshows : options.shows category = true := (honly category).mpr rfl
  have hvisits := forall₂_visits source options listing after category
  rw [Options.wanted, if_pos hshows] at hvisits
  have hhidden : ∀ other, other ≠ category -> options.shows other = false := by
    intro other hother
    exact Bool.eq_false_iff.mpr fun hshown => hother ((honly other).mp hshown)
  have hnone : ∀ other, other ≠ category -> visits source options listing after other = [] := by
    intro other hother
    rw [visits, Options.wanted, hhidden other hother]
    rfl
  refine ⟨visits source options listing after category, hvisits, ?_, ?_⟩
  · refine hexchanges.trans (congrArg (_ :: ·) (Category.flatMap_all_of_only ?_))
    intro other hother
    rw [hnone other hother]
    rfl
  · have hshown : (if options.shows category then Text.Utf8.encode category.closing else []) =
        Text.Utf8.encode category.closing := if_pos hshows
    rw [hbytes, ← hshown]
    refine congrArg (fun shown => sink.bytes ++
      (Text.Utf8.encode (Text.unlines listing.headerLines) ++ shown)) ?_
    refine Category.flatMap_all_of_only ?_
    intro other hother
    rw [hnone other hother, hhidden other hother]
    rfl

/--
Categories whose blocks are lines alone, and how an entry is had from the question for its object
and told by its lines.
-/
structure Legible {Object Told : Type} (options : Options) (category : Category)
    (entryOf? : Exchange -> Option (UInt32 × Option Object))
    (lines : UInt32 -> Object -> List String) (told : UInt32 × Option Object -> Told) : Prop where
  unbroken : ∀ id object, ∀ line ∈ lines id object, Text.Unbroken line
  delimits : Text.Delimits (category.entryLines lines) told
  listing : ∀ listing, entryOf? ⟨.resources, .ok listing⟩ = none
  entry : ∀ {State : Type} {source : Source State} {id : UInt32} {visit : Run State Unit},
    Shows source options category id visit ->
      ∃ found, visit.exchanges.filterMap entryOf? = [(id, found)] ∧
        visit.sink.bytes =
          Text.Utf8.encode (Text.unlines (category.entryLines lines (id, found)))

namespace Legible

variable {Object Told : Type} {entryOf? : Exchange -> Option (UInt32 × Option Object)}
  {lines : UInt32 -> Object -> List String} {told : UInt32 × Option Object -> Told}

theorem entries_of_forall₂ (hlegible : Legible options category entryOf? lines told)
    {ids : List UInt32} {visits : List (Run State Unit)}
    (hvisits : List.Forall₂ (Shows source options category) ids visits) :
    let entries := (visits.flatMap Run.exchanges).filterMap entryOf?
    entries.map Prod.fst = ids ∧
      (visits.flatMap fun visit => visit.sink.bytes) =
        Text.Utf8.encode (Text.unlines (entries.flatMap (category.entryLines lines))) := by
  induction hvisits with
  | nil => exact ⟨rfl, rfl⟩
  | cons hshows _ ih =>
      obtain ⟨found, hentry, hbytes⟩ := hlegible.entry hshows
      simp only [List.flatMap_cons, List.filterMap_append, hentry, hbytes, List.map_append,
        List.flatMap_append, Text.unlines_append, Text.Utf8.encode_append, ih.1, ih.2,
        List.flatMap_nil, List.append_nil, and_true]
      rfl

/-- A report on such a category is the lines of the header, of the entries, and of its end. -/
theorem run_script (hlegible : Legible options category entryOf? lines told)
    (honly : options.ShowsOnly category)
    (hlisting : source.answer state .resources = (.ok listing, after)) (sink : Sink) :
    let run := (script options).run source state sink.unhindered
    let entries := run.exchanges.filterMap entryOf?
    entries.map Prod.fst = listing.list category ∧
      run.sink.bytes = sink.bytes ++
        Text.Utf8.encode (Text.unlines (listing.headerLines ++
          (entries.flatMap (category.entryLines lines) ++ category.closingLines))) := by
  intro run entries
  obtain ⟨visits, hvisits, hexchanges, hbytes⟩ := run_script_of_only honly hlisting sink
  obtain ⟨hids, htext⟩ := hlegible.entries_of_forall₂ hvisits
  have hentries : entries = (visits.flatMap Run.exchanges).filterMap entryOf? := by
    simp only [entries, run]
    rw [hexchanges, List.filterMap_cons_none (hlegible.listing listing)]
  rw [hentries]
  refine ⟨hids, hbytes.trans ?_⟩
  rw [htext, category.closing_eq, Text.unlines_append, Text.unlines_append, Text.Utf8.encode_append,
    Text.Utf8.encode_append]

/-- The header tells where the entries begin, and the entries tell themselves. -/
theorem told_of_same_text {State' : Type} {source' : Source State'} {state' after' : State'}
    {options' : Options} {listing' : Resources} {sink sink' : Sink} {written : List UInt8}
    (hlegible : Legible options category entryOf? lines told)
    (hlegible' : Legible options' category entryOf? lines told)
    (honly : options.ShowsOnly category) (honly' : options'.ShowsOnly category)
    (hlisting : source.answer state .resources = (.ok listing, after))
    (hlisting' : source'.answer state' .resources = (.ok listing', after')) :
    let run := (script options).run source state sink.unhindered
    let run' := (script options').run source' state' sink'.unhindered
    run.sink.bytes = sink.bytes ++ written -> run'.sink.bytes = sink'.bytes ++ written ->
      (∀ other, (listing.list other).length = (listing'.list other).length) ∧
        (run.exchanges.filterMap entryOf?).map told =
          (run'.exchanges.filterMap entryOf?).map told := by
  intro run run' hwritten hwritten'
  obtain ⟨-, hbytes⟩ := hlegible.run_script honly hlisting sink
  obtain ⟨-, hbytes'⟩ := hlegible'.run_script honly' hlisting' sink'
  have htext := List.append_cancel_left (hbytes.symm.trans hwritten)
  have htext' := List.append_cancel_left (hbytes'.symm.trans hwritten')
  have hunbroken : ∀ (listing : Resources) (entries : List (UInt32 × Option Object)),
      ∀ line ∈ listing.headerLines ++
        (entries.flatMap (category.entryLines lines) ++ category.closingLines),
        Text.Unbroken line := by
    intro listing entries line hline
    rcases List.mem_append.mp hline with hheader | hlater
    · exact listing.unbroken_headerLines line hheader
    rcases List.mem_append.mp hlater with hentry | hclosing
    · obtain ⟨entry, -, hmem⟩ := List.mem_flatMap.mp hentry
      exact Category.unbroken_entryLines hlegible.unbroken entry line hmem
    · exact category.unbroken_closingLines line hclosing
  -- From the text to its lines, from these to the header, and then entry by entry.
  have hlines := Text.unlines_inj (hunbroken listing _) (hunbroken listing' _)
    (Text.Utf8.encode_injective (htext.trans htext'.symm))
  obtain ⟨hcounts, hrest⟩ := Resources.delimits_headerLines.split hlines
  refine ⟨congrFun hcounts, hlegible.delimits.flatMap_inj ?_⟩
  exact List.append_cancel_right hrest

end Legible

end Report

/-! ## Encoders and framebuffers -/

def Exchange.encoder? : Exchange -> Option (UInt32 × Option Encoder)
  | ⟨.encoder id, answer⟩ => some (id, answer.toOption)
  | _ => none

def Exchange.framebuffer? : Exchange -> Option (UInt32 × Option Framebuffer)
  | ⟨.framebuffer id, answer⟩ => some (id, answer.toOption)
  | _ => none

def Run.encoders {State α : Type} (run : Run State α) : List (UInt32 × Option Encoder) :=
  run.exchanges.filterMap Exchange.encoder?

def Run.framebuffers {State α : Type} (run : Run State α) : List (UInt32 × Option Framebuffer) :=
  run.exchanges.filterMap Exchange.framebuffer?

/-- What lines tell of a framebuffer: its numbers, or else the id under which it can not be had. -/
def Framebuffer.told : UInt32 × Option Framebuffer -> Except UInt32 Framebuffer
  | (_, some framebuffer) => .ok framebuffer
  | (id, none) => .error id

theorem Encoder.head?_heading (encoder : Encoder) : encoder.heading.toList.head? = some 'E' := by
  unfold heading
  cases Codes.encoderType? encoder.encoderType with
  | none => rfl
  | some name =>
      simp only [String.toList_append]
      rfl

namespace Report

theorem legible_encoders (options : Options) :
    Legible options .encoders Exchange.encoder?
      (fun id encoder => encoder.lines options.debugModes id) id where
  unbroken := fun id encoder => encoder.unbroken_lines options.debugModes id
  delimits := by
    refine Category.delimits_entryLines ?_ ?_
    · intro id encoder
      have hfirst : encoder.heading.toList.head? ≠ some 'C' := by
        rw [encoder.head?_heading]
        decide
      exact ⟨_, _, rfl, Category.ne_missingText hfirst .encoders⟩
    · intro id id' encoder encoder' rest rest' heq
      obtain ⟨rfl, rfl, hrest⟩ := Encoder.split_lines heq
      exact ⟨rfl, hrest⟩
  listing := fun _ => rfl
  entry := by
    intro State source id visit hshows
    have htext : ∀ encoder : Encoder, found options .encoders id encoder =
        Script.text (Text.unlines (encoder.lines options.debugModes id)) := fun _ => rfl
    obtain ⟨answer, hexchanges, hbytes⟩ := hshows.of_text htext
    refine ⟨Except.toOption answer, ?_, ?_⟩
    · rw [hexchanges]
      rfl
    · cases answer with
      | ok encoder => exact hbytes
      | error cause => exact hbytes

theorem legible_framebuffers (options : Options) :
    Legible options .framebuffers Exchange.framebuffer?
      (fun _ framebuffer => framebuffer.lines) Framebuffer.told where
  unbroken := fun _ framebuffer => framebuffer.unbroken_lines
  delimits := by
    refine Category.delimits_entryLines ?_ ?_
    · intro id framebuffer
      exact ⟨_, _, rfl, Category.ne_missingText (by decide) .framebuffers⟩
    · intro id id' framebuffer framebuffer' rest rest' heq
      obtain ⟨rfl, hrest⟩ := Framebuffer.split_lines heq
      exact ⟨rfl, hrest⟩
  listing := fun _ => rfl
  entry := by
    intro State source id visit hshows
    have htext : ∀ framebuffer : Framebuffer, found options .framebuffers id framebuffer =
        Script.text (Text.unlines framebuffer.lines) := fun _ => rfl
    obtain ⟨answer, hexchanges, hbytes⟩ := hshows.of_text htext
    refine ⟨Except.toOption answer, ?_, ?_⟩
    · rw [hexchanges]
      rfl
    · cases answer with
      | ok framebuffer => exact hbytes
      | error cause => exact hbytes

end Report

/-! ## Modes -/

theorem Connector.modeLinesFrom_full (encoderId : UInt32) (index : Nat) (modes : List Mode) :
    modeLinesFrom .full encoderId index modes = modes.flatMap Mode.fullLines := by
  induction modes generalizing index with
  | nil => rfl
  | cons mode rest ih =>
      rw [modeLinesFrom, ih, List.flatMap_cons]
      rfl

theorem Mode.eq_of_full_text {modes modes' : List Mode}
    (hnames : ∀ mode ∈ modes, Text.Unbroken mode.name)
    (hnames' : ∀ mode ∈ modes', Text.Unbroken mode.name)
    (htext : Text.unlines (modes.flatMap fullLines) = Text.unlines (modes'.flatMap fullLines)) :
    modes = modes' := by
  have hunbroken : ∀ modes : List Mode, (∀ mode ∈ modes, Text.Unbroken mode.name) ->
      ∀ line ∈ modes.flatMap fullLines, Text.Unbroken line := by
    intro modes hnames line hline
    obtain ⟨mode, hmode, hmem⟩ := List.mem_flatMap.mp hline
    exact unbroken_fullLines (hnames mode hmode) line hmem
  have hlines := Text.unlines_inj (hunbroken modes hnames) (hunbroken modes' hnames') htext
  have htold := delimits_fullLines.flatMap_inj hlines
  rwa [List.map_id, List.map_id] at htold

namespace Report

/--
What is told in numbers is read back.  Two reports on encoders alone, in the same style of modes, or
two reports on framebuffers alone, that write the same text are over cards with as many objects of
every category; the questions for the encoders were for the same ids and had the same numbers for
answers or were refused at the same places; the questions for the framebuffers had the same numbers
for answers or were refused for the same ids at the same places.  Lists of modes whose names are
single lines are the same if they are shown the same in full style.
-/
theorem numeric_blocks_unambiguous {State State' : Type} (source : Source State)
    (source' : Source State') (options options' : Options) (sink sink' : Sink)
    {state after : State} {state' after' : State'} {listing listing' : Resources}
    {written : List UInt8}
    (hlisting : source.answer state .resources = (.ok listing, after))
    (hlisting' : source'.answer state' .resources = (.ok listing', after')) :
    let run := (script options).run source state sink.unhindered
    let run' := (script options').run source' state' sink'.unhindered
    (run.sink.bytes = sink.bytes ++ written -> run'.sink.bytes = sink'.bytes ++ written ->
      (options.ShowsOnly .encoders -> options'.ShowsOnly .encoders ->
        options.debugModes = options'.debugModes ->
          (∀ category, (listing.list category).length = (listing'.list category).length) ∧
            listing.encoders = listing'.encoders ∧
            run.encoders.map Prod.fst = listing.encoders ∧
            run.encoders = run'.encoders) ∧
      (options.ShowsOnly .framebuffers -> options'.ShowsOnly .framebuffers ->
          (∀ category, (listing.list category).length = (listing'.list category).length) ∧
            run.framebuffers.map Prod.fst = listing.framebuffers ∧
            run'.framebuffers.map Prod.fst = listing'.framebuffers ∧
            run.framebuffers.map Framebuffer.told = run'.framebuffers.map Framebuffer.told)) ∧
    ∀ (encoderId encoderId' : UInt32) (index index' : Nat) (modes modes' : List Mode),
      (∀ mode ∈ modes, Text.Unbroken mode.name) -> (∀ mode ∈ modes', Text.Unbroken mode.name) ->
      Text.unlines (Connector.modeLinesFrom .full encoderId index modes) =
        Text.unlines (Connector.modeLinesFrom .full encoderId' index' modes') ->
      modes = modes' := by
  intro run run'
  refine ⟨fun hwritten hwritten' => ⟨?_, ?_⟩, ?_⟩
  · intro honly honly' hdebug
    have hlegible := legible_encoders options
    have hlegible' := legible_encoders options'
    rw [← hdebug] at hlegible'
    obtain ⟨hids, -⟩ := hlegible.run_script honly hlisting sink
    obtain ⟨hids', -⟩ := hlegible'.run_script honly' hlisting' sink'
    obtain ⟨hcounts, htold⟩ :=
      hlegible.told_of_same_text hlegible' honly honly' hlisting hlisting' hwritten hwritten'
    rw [List.map_id, List.map_id] at htold
    refine ⟨hcounts, ?_, hids, htold⟩
    calc
      listing.encoders = run.encoders.map Prod.fst := hids.symm
      _ = run'.encoders.map Prod.fst := congrArg (List.map Prod.fst) htold
      _ = listing'.encoders := hids'
  · intro honly honly'
    have hlegible := legible_framebuffers options
    have hlegible' := legible_framebuffers options'
    obtain ⟨hids, -⟩ := hlegible.run_script honly hlisting sink
    obtain ⟨hids', -⟩ := hlegible'.run_script honly' hlisting' sink'
    obtain ⟨hcounts, htold⟩ :=
      hlegible.told_of_same_text hlegible' honly honly' hlisting hlisting' hwritten hwritten'
    exact ⟨hcounts, hids, hids', htold⟩
  · intro encoderId encoderId' index index' modes modes' hnames hnames' htext
    rw [Connector.modeLinesFrom_full, Connector.modeLinesFrom_full] at htext
    exact Mode.eq_of_full_text hnames hnames' htext

/-- Why an encoder is refused, and under which id a framebuffer is found, is not told. -/
theorem numbers_of_two_cards :
    let encoder : Encoder := { encoderType := 2, crtcId := 50, possibleClones := 10 }
    let framebuffer : Framebuffer := { handle := 7, width := 1920, height := 1080 }
    let encoders : Table UInt32 (Except IoError Encoder) := Table.ofList [(30, .ok encoder)]
    let card : Card :=
      { listing := { encoders := [30, 31], framebuffers := [40, 41] }
        encoders
        framebuffers := Table.ofList [(40, .ok framebuffer)] }
    let card' : Card :=
      { listing := { encoders := [30, 31], framebuffers := [42, 41] }
        encoders
        framebuffers := Table.ofList [(42, .ok framebuffer)]
        absent := .system 13 }
    let run := fun (card : Card) options =>
      (script options).run (card.source []) 0 Sink.unlimited.unhindered
    let onEncoders : Options := { encoders := true }
    let onFramebuffers : Options := { framebuffers := true }
    let modes := [Samples.mode1080p, Samples.mode720p]
    (run card onEncoders).encoders = [(30, some encoder), (31, none)] ∧
      (run card onEncoders).encoders = (run card' onEncoders).encoders ∧
      (run card onFramebuffers).framebuffers.map Framebuffer.told =
        [.ok framebuffer, .error 41] ∧
      (run card onFramebuffers).framebuffers.map Framebuffer.told =
        (run card' onFramebuffers).framebuffers.map Framebuffer.told ∧
      Text.unlines (Connector.modeLinesFrom .full 40 0 modes) ≠
        Text.unlines (Connector.modeLinesFrom .full 40 0 modes.reverse) := by
  intro encoder framebuffer encoders card card' run onEncoders onFramebuffers modes
  have hasked : ∀ (card : Card) options, (run card options).exchanges =
      Event.exchanges ((script options).course (card.source []) 0).events := by
    intro card options
    exact (Script.run_unhindered (card.source []) (script options) 0 Sink.unlimited).2.1
  have hwritten : ∀ (card : Card) options, (run card options).sink.bytes =
      Sink.unlimited.bytes ++ Text.Utf8.encode
        (Event.written ((script options).course (card.source []) 0).events) := by
    intro card options
    exact (Script.run_unhindered (card.source []) (script options) 0 Sink.unlimited).2.2.2
  have hencoders : Event.written ((script onEncoders).course (card'.source []) 0).events =
      Event.written ((script onEncoders).course (card.source []) 0).events := rfl
  have hframebuffers : Event.written ((script onFramebuffers).course (card'.source []) 0).events =
      Event.written ((script onFramebuffers).course (card.source []) 0).events := rfl
  have hwritten' : (run card' onEncoders).sink.bytes = _ := hwritten card' onEncoders
  have hshown' : (run card' onFramebuffers).sink.bytes = _ := hwritten card' onFramebuffers
  rw [hencoders] at hwritten'
  rw [hframebuffers] at hshown'
  have honly : onEncoders.ShowsOnly .encoders := by
    intro other
    cases other <;> decide
  have honly' : onFramebuffers.ShowsOnly .framebuffers := by
    intro other
    cases other <;> decide
  obtain ⟨htold, -⟩ := numeric_blocks_unambiguous (card.source []) (card'.source []) onEncoders
    onEncoders Sink.unlimited Sink.unlimited rfl rfl
  obtain ⟨htold', hmodes⟩ := numeric_blocks_unambiguous (card.source []) (card'.source [])
    onFramebuffers onFramebuffers Sink.unlimited Sink.unlimited rfl rfl
  have hnames : ∀ mode ∈ modes, Text.Unbroken mode.name := by decide
  have hnames' : ∀ mode ∈ modes.reverse, Text.Unbroken mode.name := by decide
  have hturned : modes ≠ modes.reverse := by decide
  refine ⟨?_, ?_, ?_, ?_, fun htext => hturned (hmodes 40 40 0 0 _ _ hnames hnames' htext)⟩
  · rw [Run.encoders, hasked]
    rfl
  · exact ((htold (hwritten card onEncoders) hwritten').1 honly honly rfl).2.2.2
  · rw [Run.framebuffers, hasked]
    rfl
  · exact ((htold' (hwritten card onFramebuffers) hshown').2 honly' honly').2.2.2

end Report

end DisplayInventory
