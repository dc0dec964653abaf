import DisplayInventory.Card.Samples
import DisplayInventory.Proofs.Card.Contents
import DisplayInventory.Proofs.Report.Lines
import DisplayInventory.Proofs.Script.Steady

/-!
# What a recording card shows

The reports on a recording card can not be told from reports on any other card that answers as the
steps before them make it answer, and its record has their questions, all of them and in order.
-/

namespace DisplayInventory

namespace RecordingCard

/-- A report on a card fails only if its lists are withheld, and shows what is on the card. -/
theorem report_of_holds {recording : RecordingCard} {contents : Contents}
    (hholds : recording.card.Holds contents) (options : Options) :
    let run := (recording.report options).1
    run.outcome =
        (if contents.withheld then .error (.resources (.general .permissionDenied)) else .ok ()) ∧
      run.sink.bytes = Text.Utf8.encode run.text ∧
      ∀ card : Card, (∀ query, card.answer query = contents.answer query) ->
        ((Report.script options).run (card.source []) 0 Sink.unlimited).seen = run.seen := by
  intro run
  have hlists : recording.card.answer .resources = contents.answer .resources :=
    congrFun hholds.answer_eq .resources
  refine ⟨?_, ?_, ?_⟩
  · cases hwithheld : contents.withheld with
    | true =>
        have hrefusal : recording.source.answer recording.asked .resources =
            (.error (.general .permissionDenied), recording.asked ++ [.resources]) := by
          simp only [source, hlists, Contents.answer, hwithheld, if_true]
        exact (Report.run_of_refusal options hrefusal).1
    | false =>
        have hlisting : recording.source.answer recording.asked .resources =
            (.ok contents.listing, recording.asked ++ [.resources]) := by
          simp [source, hlists, Contents.answer, hwithheld]
        exact (Report.run_of_listing options hlisting).1
  · have hbytes := (Script.run_unlimited recording.source (Report.script options)
      recording.asked).2.2.2.1
    have htext := Script.text_run_unlimited recording.source (Report.script options)
      recording.asked
    exact hbytes.trans (congrArg Text.Utf8.encode htext.symm)
  · intro card hcard
    have hsame : card.answer = recording.card.answer := (funext hcard).trans hholds.answer_eq.symm
    have hsteady : recording.source.Steady card.answer := by
      rw [hsame]
      exact fun _ _ => rfl
    rw [Script.seen_run_of_steady card.steady_source]
    exact (Script.seen_run_of_steady hsteady _ _ _).symm

end RecordingCard

/-! ## The sample cards -/

namespace Samples

def contents (withheld : Bool) : Contents where
  listed _ := []
  held
    | .property id =>
        if id = edidProperty then some identification
        else if id = powerProperty then some power
        else none
    | .blob id => if id = edidBlob then some edid else none
    | _ => none
  withheld

theorem holds_contents (withheld : Bool) :
    (card.withholdListing withheld).card.Holds (contents withheld) where
  listed category := by
    cases category <;> rfl
  held query hobject := by
    cases query with
    | resources => exact absurd rfl hobject
    | property id =>
        by_cases hedid : id = edidProperty
        · rw [hedid]
          rfl
        · by_cases hpower : id = powerProperty
          · rw [hpower]
            rfl
          · have hheld : (contents withheld).held (.property id) = none := by
              simp only [contents, if_neg hedid, if_neg hpower]
            rw [hheld]
            exact (Card.fetch_insert_of_ne hedid).trans (Card.fetch_insert_of_ne hpower)
    | blob id =>
        by_cases hblob : id = edidBlob
        · rw [hblob]
          rfl
        · have hheld : (contents withheld).held (.blob id) = none := if_neg hblob
          rw [hheld]
          exact Card.fetch_insert_of_ne hblob
    | connector | encoder | crtc | framebuffer => rfl
  withheld := rfl
  absent := rfl

end Samples

namespace RecordingCard

/--
A sample card keeps a true record and true contents through any history.  What was taken from the
record and what is still in it is what all reports have asked, and who reads or takes it is shown
all of it.  Reports and readers change nothing else.  Ids are listed in the order in which they
came, and an object is what the last step that concerns it made of it.  A report, which fails
exactly while the lists are withheld, is the report on any card that gives these answers.
-/
theorem history_is_recorded (withheld : Bool) (steps : List Step) :
    let start := if withheld then Samples.withholdingCard else Samples.card
    let shown := (start.history steps).1
    let last := (start.history steps).2
    let contents := (Samples.contents withheld).after steps
    taken steps shown ++ last.asked = shown.flatMap Shown.reported ∧
      (∀ step : Step, step = .readAsked ∨ step = .takeAsked -> ∀ later, ∃ rest,
        (start.history (steps ++ step :: later)).1 = shown ++ .asked last.asked :: rest) ∧
      last.card = (start.history (steps.filter Step.edits)).2.card ∧
      (∀ category, last.card.listing.list category =
        steps.flatMap fun step => step.lists category) ∧
      (∀ query, last.card.answer query = contents.answer query) ∧
      (∀ query : Query, (∀ step ∈ steps, step.change? query = none) ->
        contents.held query = (Samples.contents withheld).held query) ∧
      (∀ (query : Query) change before (step : Step) later, steps = before ++ step :: later ->
        step.change? query = some change -> (∀ other ∈ later, other.change? query = none) ->
          contents.held query = change (((Samples.contents withheld).after before).held query)) ∧
      ∀ (options : Options) later, ∃ (run : Run (List Query) Unit) (rest : List Shown),
        (start.history (steps ++ .report options :: later)).1 = shown ++ .report run :: rest ∧
          run.outcome = (if contents.withheld then
            .error (.resources (.general .permissionDenied)) else .ok ()) ∧
          run.sink.bytes = Text.Utf8.encode run.text ∧
          ∀ card : Card, (∀ query, card.answer query = contents.answer query) ->
            ((Report.script options).run (card.source []) 0 Sink.unlimited).seen = run.seen := by
  intro start shown last contents
  have hstart : start = Samples.card.withholdListing withheld := by
    cases withheld <;> rfl
  have hholds : last.card.Holds contents :=
    holds_history (hstart ▸ Samples.holds_contents withheld) steps
  refine ⟨?_, ?_, card_history_filter_edits rfl steps, hholds.listed,
    congrFun hholds.answer_eq, fun query hnone => Contents.held_after_of_unconcerned _ hnone,
    ?_, ?_⟩
  · have hrecord := start.taken_append_asked_history steps
    have hasked : start.asked = [] := congrArg asked hstart
    rwa [hasked, List.nil_append] at hrecord
  · rintro step (rfl | rfl) later
    · exact start.exists_shown_history steps later .readAsked
    · exact start.exists_shown_history steps later .takeAsked
  · rintro query change before step later rfl hchange hlast
    exact Contents.held_after_of_last _ hchange hlast
  · intro options later
    obtain ⟨rest, hshown⟩ := start.exists_shown_history steps later (.report options)
    exact ⟨_, rest, hshown, report_of_holds hholds options⟩

/-- An encoder that is added twice is listed twice, as it was added last. -/
theorem history_with_encoder_added_twice :
    let steps : List Step :=
      [.addEncoder 7 {}, .report {}, .takeAsked, .addEncoder 7 { encoderType := 2 },
        .withhold false]
    let shown := (Samples.withholdingCard.history steps).1
    let last := (Samples.withholdingCard.history steps).2
    taken steps shown ++ last.asked = [.resources] ∧
      last.card.listing.encoders = [7, 7] ∧
      last.card.answer (.encoder 7) = .ok { encoderType := 2 } ∧
      last.card.answer (.property 3) = .error (.general .notFound) ∧
      ∃ (run : Run (List Query) Unit) (rest : List Shown),
        (Samples.withholdingCard.history (steps ++ [.report { encoders := true }])).1 =
            shown ++ .report run :: rest ∧
          run.outcome = .ok () ∧
          ((Report.script { encoders := true }).run (last.card.source []) 0
            Sink.unlimited).seen = run.seen := by
  intro steps shown last
  obtain ⟨hrecord, -, -, hlists, hanswers, hnone, hlast, hreport⟩ :=
    history_is_recorded true steps
  have hencoder := hlast (.encoder 7) (fun _ => some { encoderType := 2 }) (steps.take 3)
    (.addEncoder 7 { encoderType := 2 }) [.withhold false] rfl rfl (by decide)
  have hproperty := hnone (.property 3) (by decide)
  obtain ⟨run, rest, hshown, houtcome, -, hseen⟩ := hreport { encoders := true } []
  refine ⟨hrecord.trans (by decide +kernel), hlists .encoders, ?_, ?_, run, rest, hshown,
    houtcome, hseen last.card hanswers⟩
  · exact (hanswers (.encoder 7)).trans (congrArg Card.orAbsent hencoder)
  · exact (hanswers (.property 3)).trans (congrArg Card.orAbsent hproperty)

end RecordingCard

end DisplayInventory
