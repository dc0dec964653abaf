import DisplayInventory.Card.Memory
import DisplayInventory.Proofs.Report.Enumeration
import DisplayInventory.Proofs.Script.Offers
import DisplayInventory.Proofs.Script.Steady

/-!
# Reports on sinks that fail

A report flushes once, behind its whole text, and only if the card told its lists of ids.  So it
leaves a sink as if its text were written at once: a limit cuts off the text and with it all that
follows, and a failure to flush comes when the text is complete.  No failure of the sink is passed
over, and nothing is asked or noted behind it.
-/

namespace DisplayInventory

/--
A new sink that keeps a number of bytes and refuses what goes beyond them, with a failure or, if
none is given, by accepting nothing.
-/
def Sink.limited (limit : Nat) (refusal : Option IoError) (flushFailure : Option IoError) : Sink :=
  { limit := some limit
    refusal := refusal.getD IoError.shortWrite
    flushFailure }

def Run.lastSink {State α : Type} : Sink -> List (Run State α) -> Sink
  | sink, [] => sink
  | _, run :: rest => lastSink run.sink rest

namespace Report

variable {State : Type} {source : Source State}

/--
The course of a report is a part without a flush, and behind it a flush if and only if the card
told its lists.
-/
theorem exists_events_script (source : Source State) (state : State) (options : Options) :
    ∃ events, Event.flushed ∉ events ∧
      match (source.answer state .resources).1 with
      | .ok _ =>
          ((script options).course source state).events = events ++ [.flushed] ∧
            ((script options).course source state).outcome = .ok ()
      | .error cause =>
          ((script options).course source state).events = events ∧
            ((script options).course source state).outcome = .error (.resources cause) := by
  cases hlisting : source.answer state .resources with
  | mk answer after =>
      cases answer with
      | ok listing =>
          have hbody := (body_plain options listing).flushed_not_mem source after
          refine ⟨.asked ⟨.resources, .ok listing⟩ ::
            ((body options listing).course source after).events, ?_, ?_⟩
          · simpa using hbody
          · simp [course_script_of_ok hlisting]
      | error cause =>
          refine ⟨_, ?_, congrArg Course.events (course_script_of_error hlisting),
            congrArg Course.outcome (course_script_of_error hlisting)⟩
          simp

/-- The text of a report that a sink refuses ends the report before any flush. -/
theorem deliver_script_of_refused {state : State} {options : Options} {sink : Sink}
    {failure : Failure}
    (hrefused : (sink.write (Event.written ((script options).course source state).events)).1 =
      some failure) :
    (sink.deliver ((script options).course source state).events).failure = some failure ∧
      Event.flushed ∉ (sink.deliver ((script options).course source state).events).attempted := by
  obtain ⟨events, hflushed, hcourse⟩ := exists_events_script source state options
  have hbegins : ∃ rest, ((script options).course source state).events = events ++ rest ∧
      Event.written rest = "" := by
    cases hlisting : (source.answer state .resources).1 with
    | ok listing =>
        rw [hlisting] at hcourse
        exact ⟨[.flushed], hcourse.1, rfl⟩
    | error cause =>
        rw [hlisting] at hcourse
        exact ⟨[], by rw [hcourse.1, List.append_nil], rfl⟩
  obtain ⟨rest, hevents, hrest⟩ := hbegins
  rw [hevents, Event.written_append, hrest, String.append_empty] at hrefused
  have hfailed : (sink.deliver events).failure = some failure := by
    rw [(Sink.deliver_eq_write sink events hflushed).1, hrefused]
  rw [hevents, Sink.deliver_append_of_failed hfailed]
  exact ⟨hfailed, fun hmem => hflushed ((Sink.attempted_prefix sink events).subset hmem)⟩

/-- A report whose text a sink takes is come to as a whole, and fails only where it flushes. -/
theorem deliver_script_of_taken {state : State} {options : Options} {sink : Sink}
    (htaken : (sink.write (Event.written ((script options).course source state).events)).1 =
      none) :
    (sink.deliver ((script options).course source state).events).attempted =
        ((script options).course source state).events ∧
      match (source.answer state .resources).1 with
      | .ok _ =>
          (sink.deliver ((script options).course source state).events).failure =
              sink.flushFailure.map .flush ∧
            Event.flushed ∈ ((script options).course source state).events
      | .error _ =>
          (sink.deliver ((script options).course source state).events).failure = none ∧
            Event.flushed ∉ ((script options).course source state).events := by
  obtain ⟨events, hflushed, hcourse⟩ := exists_events_script source state options
  have hwrite := (Sink.deliver_eq_write sink events hflushed).1
  cases hlisting : (source.answer state .resources).1 with
  | error cause =>
      rw [hlisting] at hcourse
      rw [hcourse.1] at htaken ⊢
      have hnone : (sink.deliver events).failure = none := by rw [hwrite, htaken]
      exact ⟨Sink.attempted_of_failure_eq_none hnone, hnone, hflushed⟩
  | ok listing =>
      rw [hlisting] at hcourse
      rw [hcourse.1] at htaken ⊢
      simp only [Event.written_append, Event.written_flushed_cons, Event.written_nil,
        String.append_empty] at htaken
      have hnone : (sink.deliver events).failure = none := by rw [hwrite, htaken]
      have hsettings := (Sink.deliver_keeps_settings sink events).2.2
      rw [Sink.deliver_append_of_delivered hnone]
      cases hfailure : sink.flushFailure with
      | none =>
          simp [Sink.deliver, Sink.take, hsettings, hfailure, Delivery.after]
      | some cause => simp [Sink.deliver, Sink.take, hsettings, hfailure]

/-- A report whose text goes beyond its sink comes to what the write comes to that is refused. -/
theorem run_of_refused {state : State} {options : Options} {sink : Sink} {failure : Failure}
    (hrefused : (sink.write (Event.written ((script options).course source state).events)).1 =
      some failure) :
    let free := (script options).run source state Sink.unlimited
    let run := (script options).run source state sink
    run.outcome = .error failure ∧ run.exchanges <+: free.exchanges ∧
      run.records <+: free.records := by
  intro free run
  obtain ⟨houtcome, hexchanges, hrecords, -⟩ :=
    Script.run_delivers source (script options) state sink
  obtain ⟨-, hfreeExchanges, hfreeRecords, -, -⟩ :=
    Script.run_unlimited source (script options) state
  obtain ⟨hfailure, -⟩ := deliver_script_of_refused hrefused
  have hprefix := Sink.attempted_prefix sink ((script options).course source state).events
  refine ⟨?_, ?_, ?_⟩
  · rw [houtcome]
    simp only [Delivery.toRun, hfailure]
  · rw [hexchanges, hfreeExchanges]
    exact hprefix.filterMap Event.exchange?
  · rw [hrecords, hfreeRecords]
    exact hprefix.filterMap Event.record?

/-- A report whose text a sink takes differs from a free one in nothing but a failed flush. -/
theorem run_of_taken {state : State} {options : Options} {sink : Sink}
    (htaken : (sink.write (Event.written ((script options).course source state).events)).1 =
      none) :
    let free := (script options).run source state Sink.unlimited
    let run := (script options).run source state sink
    run.exchanges = free.exchanges ∧ run.records = free.records ∧
      run.outcome =
        match (source.answer state .resources).1, sink.flushFailure with
        | .ok _, some cause => .error (.flush cause)
        | _, _ => free.outcome := by
  intro free run
  obtain ⟨houtcome, hexchanges, hrecords, -⟩ :=
    Script.run_delivers source (script options) state sink
  obtain ⟨hfree, hfreeExchanges, hfreeRecords, -, -⟩ :=
    Script.run_unlimited source (script options) state
  obtain ⟨hall, hfailure⟩ := deliver_script_of_taken htaken
  refine ⟨?_, ?_, ?_⟩
  · rw [hexchanges, hfreeExchanges, hall]
  · rw [hrecords, hfreeRecords, hall]
  · rw [houtcome, hfree]
    cases hlisting : (source.answer state .resources).1 with
    | error cause =>
        rw [hlisting] at hfailure
        simp only [Delivery.toRun, hfailure.1]
    | ok listing =>
        rw [hlisting] at hfailure
        cases hflush : sink.flushFailure with
        | none => simp only [Delivery.toRun, hfailure.1, hflush, Option.map_none]
        | some cause => simp only [Delivery.toRun, hfailure.1, hflush, Option.map_some]

theorem flushed_mem_attempted_iff (source : Source State) (state : State) (options : Options)
    (sink : Sink) :
    Event.flushed ∈ (sink.deliver ((script options).course source state).events).attempted ↔
      (sink.write (Event.written ((script options).course source state).events)).1 = none ∧
        (source.answer state .resources).1.isOk = true := by
  cases hwrite : (sink.write (Event.written ((script options).course source state).events)).1 with
  | some failure =>
      have hnot := (deliver_script_of_refused hwrite).2
      exact iff_of_false hnot fun hreached => absurd hreached.1 nofun
  | none =>
      obtain ⟨hall, hfailure⟩ := deliver_script_of_taken hwrite
      rw [hall]
      cases hlisting : (source.answer state .resources).1 with
      | error cause =>
          rw [hlisting] at hfailure
          simpa [Except.isOk, Except.toBool] using hfailure.2
      | ok listing =>
          rw [hlisting] at hfailure
          simpa [Except.isOk, Except.toBool] using hfailure.2

theorem sink_deliver_flushed (sink : Sink) : (sink.deliver [.flushed]).sink = sink := by
  cases hflush : sink.flushFailure <;> simp [Sink.deliver, Sink.take, hflush, Delivery.after]

/-- A report leaves a sink as if its text were written at once. -/
theorem sink_run_script (source : Source State) (state : State) (options : Options)
    (sink : Sink) :
    ((script options).run source state sink).sink =
      (sink.write (Event.written ((script options).course source state).events)).2 := by
  obtain ⟨events, hflushed, hcourse⟩ := exists_events_script source state options
  obtain ⟨hfailure, hsink⟩ := Sink.deliver_eq_write sink events hflushed
  rw [(Script.run_delivers source (script options) state sink).2.2.2]
  cases hlisting : (source.answer state .resources).1 with
  | error cause =>
      rw [hlisting] at hcourse
      rw [hcourse.1, hsink]
  | ok listing =>
      rw [hlisting] at hcourse
      rw [hcourse.1, Event.written_append, Event.written_flushed_cons, Event.written_nil,
        String.append_empty, ← hsink]
      cases hfailed : (sink.deliver events).failure with
      | some failure => rw [Sink.deliver_append_of_failed hfailed]
      | none =>
          rw [Sink.deliver_append_of_delivered hfailed]
          exact sink_deliver_flushed _

theorem bytes_run_of_limit (source : Source State) (state : State) (options : Options)
    {sink : Sink} {limit : Nat} (hlimit : sink.limit = some limit) :
    ((script options).run source state sink).sink.bytes =
      sink.bytes ++ ((script options).run source state Sink.unlimited).sink.bytes.take
        (limit - sink.bytes.length) := by
  rw [sink_run_script, Sink.bytes_write, (Script.run_unlimited source _ state).2.2.2.1]
  simp only [Sink.room, hlimit, Sink.length_bytes]
  refine congrArg (sink.bytes ++ ·) (List.take_eq_take_iff.mpr ?_)
  omega

theorem write_limited (limit : Nat) (refusal flushFailure : Option IoError) (text : String) :
    ((Sink.limited limit refusal flushFailure).write text).1 =
      if limit < (Text.Utf8.encode text).length then
        some (if refusal = some (.system 4) then .endless
          else .write (refusal.getD IoError.shortWrite))
      else none := by
  have hroom : (Sink.limited limit refusal flushFailure).room (Text.Utf8.encode text).length =
      min (Text.Utf8.encode text).length limit := rfl
  have hrefusal : Failure.ofRefusal (Sink.limited limit refusal flushFailure).refusal =
      if refusal = some (.system 4) then .endless
      else .write (refusal.getD IoError.shortWrite) := by
    rw [Failure.ofRefusal_eq]
    cases refusal with
    | none => rfl
    | some cause => exact if_congr Option.some_inj.symm rfl rfl
  rw [Sink.write_failure, hroom, hrefusal]
  exact if_congr (by omega) rfl rfl

/-! ## One report after the other -/

/-- A card without faults answers every report alike, however many questions came before. -/
theorem bytes_run_card (card : Card) (options : Options) (asked other : Nat) :
    ((script options).run (card.source []) asked Sink.unlimited).sink.bytes =
      ((script options).run (card.source []) other Sink.unlimited).sink.bytes := by
  have hasked :=
    Script.seen_run_of_steady card.steady_source (script options) asked Sink.unlimited
  have hother :=
    Script.seen_run_of_steady card.steady_source (script options) other Sink.unlimited
  exact congrArg (fun run : Run Unit Unit => run.sink.bytes) (hasked.trans hother.symm)

theorem isEndless_of_taken {state : State} {options : Options} {sink : Sink}
    (htaken : (sink.write (Event.written ((script options).course source state).events)).1 =
      none) :
    ((script options).run source state sink).isEndless = false := by
  obtain ⟨-, -, houtcome⟩ := run_of_taken htaken
  obtain ⟨events, -, hcourse⟩ := exists_events_script source state options
  rw [(Script.run_unlimited source (script options) state).1] at houtcome
  unfold Run.isEndless
  rw [houtcome]
  cases hlisting : (source.answer state .resources).1 with
  | error cause =>
      rw [hlisting] at hcourse
      rw [hcourse.2]
  | ok listing =>
      rw [hlisting] at hcourse
      rw [hcourse.2]
      cases sink.flushFailure <;> rfl

/-- A report that never ends has more text than there is room for. -/
theorem lt_of_isEndless {state : State} {options : Options} {sink : Sink} {limit : Nat}
    (hlimit : sink.limit = some limit)
    (hendless : ((script options).run source state sink).isEndless = true) :
    limit - sink.bytes.length <
      ((script options).run source state Sink.unlimited).sink.bytes.length := by
  rw [(Script.run_unlimited source (script options) state).2.2.2.1]
  by_contra hfits
  have htaken :
      (sink.write (Event.written ((script options).course source state).events)).1 = none := by
    rw [Sink.write_failure, if_neg]
    simp only [Sink.room, hlimit, ← Sink.length_bytes]
    omega
  exact absurd (isEndless_of_taken htaken) (by simp [hendless])

theorem bytes_lastSink_runs (card : Card) (options : Options) (times asked : Nat) {sink : Sink}
    {limit : Nat} (hlimit : sink.limit = some limit) :
    (Run.lastSink sink ((script options).runs (card.source []) times asked sink)).bytes =
      sink.bytes ++ ((List.replicate times
        ((script options).run (card.source []) 0 Sink.unlimited).sink.bytes).flatten).take
          (limit - sink.bytes.length) := by
  induction times generalizing asked sink with
  | zero => simp [Script.runs, Run.lastSink]
  | succ times ih =>
      have hfirst := bytes_run_of_limit (card.source []) asked options hlimit
      rw [bytes_run_card card options asked 0] at hfirst
      have hkept : ((script options).run (card.source []) asked sink).sink.limit = some limit := by
        rw [sink_run_script]
        exact hlimit
      simp only [Script.runs, Run.lastSink]
      rw [List.replicate_succ, List.flatten_cons]
      cases hendless : ((script options).run (card.source []) asked sink).isEndless with
      | true =>
          have hlong := lt_of_isEndless hlimit hendless
          rw [bytes_run_card card options asked 0] at hlong
          rw [if_pos rfl, Run.lastSink, hfirst, List.take_append_of_le_length (Nat.le_of_lt hlong)]
      | false =>
          rw [if_neg (by simp), ih _ hkept, hfirst, List.append_assoc, List.take_append,
            List.length_append, List.length_take]
          refine congrArg (fun room => sink.bytes ++ (_ ++ List.take room _)) ?_
          omega

/-! ## A report on a limited sink -/

theorem chain_write_refusal (refusal : Option IoError) :
    (Failure.write (refusal.getD IoError.shortWrite)).chain =
      [match refusal with
        | some cause => cause.message
        | none => "failed to write whole buffer"] := by
  cases refusal <;> rfl

/--
A report on a limited sink, compared with the same report on a sink that accepts everything.  It
keeps exactly the first bytes of the text.  If the text goes past the limit, the report fails with
the failure of the write alone, and asked and noted a first part of what it otherwise does; only if
the sink calls every write interrupted, it does not fail but makes the write again without end.  If
the text does not go past the limit, the report asks and notes everything, and ends as it otherwise
does, unless the lists were told and the flush fails; a flush is come to if and only if the whole
text was taken and the lists were told.  Reports on a card without faults, one after the other, keep
the first bytes of their texts in a row.
-/
theorem run_on_limited_sink (source : Source State) (state : State) (options : Options)
    (limit : Nat) (refusal flushFailure : Option IoError) :
    let sink := Sink.limited limit refusal flushFailure
    let free := (script options).run source state Sink.unlimited
    let run := (script options).run source state sink
    run.sink.bytes = free.sink.bytes.take limit ∧
      (if limit < free.sink.bytes.length then
        (if refusal = some (.system 4) then run.outcome = .error .endless
        else
          run.outcome = .error (.write (refusal.getD IoError.shortWrite)) ∧
            (Failure.write (refusal.getD IoError.shortWrite)).chain =
              [match refusal with
                | some cause => cause.message
                | none => "failed to write whole buffer"]) ∧
          run.exchanges <+: free.exchanges ∧ run.records <+: free.records
      else
        run.exchanges = free.exchanges ∧ run.records = free.records ∧
          match (source.answer state .resources).1, flushFailure with
          | .ok _, some cause =>
              run.outcome = .error (.flush cause) ∧
                (Failure.flush cause).chain = ["Failed to flush output", cause.message] ∧
                run.sink.bytes = free.sink.bytes
          | _, _ => run.outcome = free.outcome) ∧
      (∀ offers, (script options).runWithin source (offers + 2) state sink =
        if limit < free.sink.bytes.length ∧ refusal = some (.system 4) then none else some run) ∧
      (Event.flushed ∈ (sink.deliver ((script options).course source state).events).attempted ↔
        free.sink.bytes.length ≤ limit ∧ (source.answer state .resources).1.isOk = true) ∧
      ∀ (card : Card) (times : Nat),
        (Run.lastSink sink ((script options).runs (card.source []) times 0 sink)).bytes =
          ((List.replicate times
            ((script options).run (card.source []) 0 Sink.unlimited).sink.bytes).flatten).take
              limit := by
  intro sink free run
  have hbytes : run.sink.bytes = free.sink.bytes.take limit :=
    bytes_run_of_limit source state options rfl
  have hwrite := write_limited limit refusal flushFailure
    (Event.written ((script options).course source state).events)
  rw [← (Script.run_unlimited source (script options) state).2.2.2.1] at hwrite
  have hwithin : ∀ offers, (script options).runWithin source (offers + 2) state sink = run.ended? :=
    fun offers => Script.runWithin_eq source (script options) offers state sink
  have hflushed := flushed_mem_attempted_iff source state options sink
  have hrepeated : ∀ (card : Card) (times : Nat),
      (Run.lastSink sink ((script options).runs (card.source []) times 0 sink)).bytes =
        ((List.replicate times
          ((script options).run (card.source []) 0 Sink.unlimited).sink.bytes).flatten).take
            limit :=
    fun card times => bytes_lastSink_runs card options times 0 rfl
  by_cases hover : limit < free.sink.bytes.length
  · rw [if_pos hover] at hwrite
    obtain ⟨houtcome, hexchanges, hrecords⟩ := run_of_refused hwrite
    refine ⟨hbytes, ?_, fun offers => ?_, ?_, hrepeated⟩
    · rw [if_pos hover]
      refine ⟨?_, hexchanges, hrecords⟩
      by_cases hinterrupted : refusal = some (.system 4)
      · rw [if_pos hinterrupted] at houtcome ⊢
        exact houtcome
      · rw [if_neg hinterrupted] at houtcome ⊢
        exact ⟨houtcome, chain_write_refusal refusal⟩
    · rw [hwithin, Run.ended?, Run.isEndless, houtcome]
      by_cases hinterrupted : refusal = some (.system 4) <;> simp [hinterrupted, hover]
    · rw [hflushed, hwrite]
      exact iff_of_false (fun hreached => Option.some_ne_none _ hreached.1)
        fun hreached => absurd hreached.1 (Nat.not_le_of_lt hover)
  · rw [if_neg hover] at hwrite
    have hfits := Nat.le_of_not_lt hover
    obtain ⟨hexchanges, hrecords, houtcome⟩ := run_of_taken hwrite
    refine ⟨hbytes, ?_, fun offers => ?_, ?_, hrepeated⟩
    · rw [if_neg hover]
      refine ⟨hexchanges, hrecords, ?_⟩
      cases hlisting : (source.answer state .resources).1 with
      | error cause =>
          rw [hlisting] at houtcome
          exact houtcome
      | ok listing =>
          rw [hlisting] at houtcome
          cases flushFailure with
          | none => exact houtcome
          | some cause => exact ⟨houtcome, rfl, hbytes.trans (List.take_of_length_le hfits)⟩
    · rw [hwithin, Run.ended?, isEndless_of_taken hwrite]
      simp [hover]
    · rw [hflushed, hwrite]
      exact and_congr (iff_of_true rfl hfits) Iff.rfl

end Report

end DisplayInventory
