import DisplayInventory.Proofs.Script.Course

/-!
# Delivering a course to a sink

A sink takes the events of a course one after the other, until a write or a flush fails.  The run
of a script on a sink is the delivery of its course: it comes to a first part of the events, of
which only the last one can have failed.  Without a flush among them, to deliver events is to write
their whole text at once, so it makes no difference where the pieces of a text begin and end.
-/

namespace DisplayInventory

namespace Sink

def unhindered (sink : Sink) : Sink :=
  { sink with limit := none, flushFailure := none }

theorem length_bytes (sink : Sink) : sink.bytes.length = sink.kept.size := rfl

/-- A sink is known by its settings and by the bytes in it. -/
theorem eq_of_bytes_eq {first second : Sink} (hlimit : first.limit = second.limit)
    (hrefusal : first.refusal = second.refusal)
    (hflush : first.flushFailure = second.flushFailure) (hbytes : first.bytes = second.bytes) :
    first = second := by
  cases first with
  | mk limit refusal flushFailure kept =>
      cases second with
      | mk limit' refusal' flushFailure' kept' =>
          have hkept : kept = kept' := ByteArray.ext (Array.toList_inj.mp hbytes)
          cases hlimit
          cases hrefusal
          cases hflush
          rw [hkept]

theorem write_failure (sink : Sink) (text : String) :
    (sink.write text).1 =
      if sink.room (Text.Utf8.encode text).length < (Text.Utf8.encode text).length then
        some (.ofRefusal sink.refusal)
      else none := rfl

theorem write_failure_cases {sink : Sink} {text : String} {failure : Failure}
    (hrefused : (sink.write text).1 = some failure) :
    failure = .endless ∨ ∃ cause, failure = .write cause := by
  rw [write_failure] at hrefused
  split at hrefused
  · rw [← Option.some.inj hrefused]
    exact (Failure.ofRefusal_cases sink.refusal).imp_right fun hwrite => ⟨_, hwrite⟩
  · exact absurd hrefused nofun

theorem room_write (sink : Sink) (text : String) (count : Nat)
    (htaken : (sink.write text).1 = none) :
    sink.room ((Text.Utf8.encode text).length + count) =
      (Text.Utf8.encode text).length + (sink.write text).2.room count := by
  have hroom : ¬sink.room (Text.Utf8.encode text).length < (Text.Utf8.encode text).length := by
    simpa [write_failure] using htaken
  have hbytes := bytes_write sink text
  rw [List.take_of_length_le (Nat.le_of_not_lt hroom)] at hbytes
  have hsize := congrArg List.length hbytes
  rw [List.length_append, length_bytes, length_bytes] at hsize
  unfold room at hroom ⊢
  rw [(write_keeps_settings sink text).1, hsize]
  cases hlimit : sink.limit with
  | none => rfl
  | some limit =>
      simp only [hlimit] at hroom ⊢
      omega

theorem room_of_refused (sink : Sink) (text : String) (count : Nat)
    (hrefused : (sink.write text).1 ≠ none) :
    sink.room ((Text.Utf8.encode text).length + count) =
      sink.room (Text.Utf8.encode text).length ∧
      sink.room (Text.Utf8.encode text).length < (Text.Utf8.encode text).length := by
  have hroom : sink.room (Text.Utf8.encode text).length < (Text.Utf8.encode text).length := by
    simpa [write_failure] using hrefused
  refine ⟨?_, hroom⟩
  unfold room at hroom ⊢
  cases hlimit : sink.limit with
  | none => simp [hlimit] at hroom
  | some limit =>
      simp only [hlimit] at hroom ⊢
      omega

/-- To write two texts one after the other is to write them at once. -/
theorem write_append (sink : Sink) (first second : String) :
    sink.write (first ++ second) =
      match sink.write first with
      | (some failure, sink') => (some failure, sink')
      | (none, sink') => sink'.write second := by
  have hlength : (Text.Utf8.encode (first ++ second)).length =
      (Text.Utf8.encode first).length + (Text.Utf8.encode second).length := by
    rw [Text.Utf8.encode_append, List.length_append]
  cases hfirst : (sink.write first).1 with
  | none =>
      have hroom := room_write sink first (Text.Utf8.encode second).length hfirst
      have hfits :
          ¬sink.room (Text.Utf8.encode first).length < (Text.Utf8.encode first).length := by
        simpa [write_failure] using hfirst
      rw [show sink.write first = (none, (sink.write first).2) from Prod.ext hfirst rfl]
      refine Prod.ext ?_ (eq_of_bytes_eq rfl rfl rfl ?_)
      · rw [write_failure, write_failure, hlength, hroom]
        simp only [Nat.add_lt_add_iff_left]
        rfl
      · rw [bytes_write, bytes_write, bytes_write, hlength, hroom, Text.Utf8.encode_append,
          List.take_length_add_append, List.take_of_length_le (Nat.le_of_not_lt hfits),
          List.append_assoc]
  | some failure =>
      obtain ⟨hroom, hshort⟩ := room_of_refused sink first (Text.Utf8.encode second).length
        (by simp [hfirst])
      rw [show sink.write first = (some failure, (sink.write first).2) from Prod.ext hfirst rfl]
      refine Prod.ext ?_ (eq_of_bytes_eq rfl rfl rfl ?_)
      · rw [← hfirst, write_failure, write_failure, hlength, hroom, if_pos hshort,
          if_pos (by omega)]
      · rw [bytes_write, bytes_write, hlength, hroom, Text.Utf8.encode_append,
          List.take_append_of_le_length (Nat.le_of_lt hshort)]

end Sink

/-- What a sink makes of events. -/
structure Delivery where
  failure : Option Failure
  /-- The events that it came to; if one of them failed, it is the last. -/
  attempted : List Event
  sink : Sink

namespace Delivery

def after (event : Event) (delivery : Delivery) : Delivery :=
  { delivery with attempted := event :: delivery.attempted }

/-- The run that can be seen where a course with an outcome is delivered. -/
def toRun {α : Type} (outcome : Except Failure α) (delivery : Delivery) : Run Unit α where
  outcome :=
    match delivery.failure with
    | some failure => .error failure
    | none => outcome
  exchanges := Event.exchanges delivery.attempted
  records := Event.records delivery.attempted
  sink := delivery.sink
  state := ()

end Delivery

def Sink.take (sink : Sink) : Event -> Option Failure × Sink
  | .wrote text => sink.write text
  | .flushed => (sink.flushFailure.map .flush, sink)
  | _ => (none, sink)

def Sink.deliver : Sink -> List Event -> Delivery
  | sink, [] => ⟨none, [], sink⟩
  | sink, event :: rest =>
      match sink.take event with
      | (some failure, sink') => ⟨some failure, [event], sink'⟩
      | (none, sink') => (sink'.deliver rest).after event

namespace Sink

theorem take_keeps_settings (sink : Sink) (event : Event) :
    (sink.take event).2.limit = sink.limit ∧ (sink.take event).2.refusal = sink.refusal ∧
      (sink.take event).2.flushFailure = sink.flushFailure := by
  cases event <;> exact ⟨rfl, rfl, rfl⟩

theorem deliver_of_taken {sink sink' : Sink} {event : Event}
    (htake : sink.take event = (none, sink')) (rest : List Event) :
    sink.deliver (event :: rest) = (sink'.deliver rest).after event := by
  simp [deliver, htake]

theorem deliver_of_refused {sink sink' : Sink} {event : Event} {failure : Failure}
    (htake : sink.take event = (some failure, sink')) (rest : List Event) :
    sink.deliver (event :: rest) = ⟨some failure, [event], sink'⟩ := by
  simp [deliver, htake]

theorem deliver_append_of_failed {sink : Sink} {first : List Event} {failure : Failure}
    (hfailed : (sink.deliver first).failure = some failure) (second : List Event) :
    sink.deliver (first ++ second) = sink.deliver first := by
  induction first generalizing sink with
  | nil => simp [deliver] at hfailed
  | cons event rest ih =>
      cases htake : sink.take event with
      | mk refusal sink' =>
          cases refusal with
          | some refusal =>
              rw [List.cons_append, deliver_of_refused htake, deliver_of_refused htake]
          | none =>
              rw [deliver_of_taken htake] at hfailed
              rw [List.cons_append, deliver_of_taken htake, deliver_of_taken htake, ih hfailed]

theorem deliver_append_of_delivered {sink : Sink} {first : List Event}
    (hnone : (sink.deliver first).failure = none) (second : List Event) :
    sink.deliver (first ++ second) =
      ⟨((sink.deliver first).sink.deliver second).failure,
        first ++ ((sink.deliver first).sink.deliver second).attempted,
        ((sink.deliver first).sink.deliver second).sink⟩ := by
  induction first generalizing sink with
  | nil => rfl
  | cons event rest ih =>
      cases htake : sink.take event with
      | mk failure sink' =>
          cases failure with
          | some failure => simp [deliver_of_refused htake] at hnone
          | none =>
              rw [deliver_of_taken htake] at hnone
              rw [List.cons_append, deliver_of_taken htake, deliver_of_taken htake, ih hnone]
              rfl

theorem attempted_prefix (sink : Sink) (events : List Event) :
    (sink.deliver events).attempted <+: events := by
  induction events generalizing sink with
  | nil => exact List.prefix_rfl
  | cons event rest ih =>
      cases htake : sink.take event with
      | mk failure sink' =>
          cases failure with
          | some failure =>
              rw [deliver_of_refused htake]
              exact ⟨rest, rfl⟩
          | none =>
              rw [deliver_of_taken htake]
              exact List.prefix_cons_inj event |>.mpr (ih sink')

theorem attempted_of_failure_eq_none {sink : Sink} {events : List Event}
    (hnone : (sink.deliver events).failure = none) :
    (sink.deliver events).attempted = events := by
  have hdelivered := congrArg Delivery.attempted (deliver_append_of_delivered hnone [])
  simpa [deliver] using hdelivered

theorem deliver_keeps_settings (sink : Sink) (events : List Event) :
    (sink.deliver events).sink.limit = sink.limit ∧
      (sink.deliver events).sink.refusal = sink.refusal ∧
      (sink.deliver events).sink.flushFailure = sink.flushFailure := by
  induction events generalizing sink with
  | nil => exact ⟨rfl, rfl, rfl⟩
  | cons event rest ih =>
      have hkeeps := take_keeps_settings sink event
      cases htake : sink.take event with
      | mk failure sink' =>
          rw [htake] at hkeeps
          cases failure with
          | some failure => rwa [deliver_of_refused htake]
          | none =>
              obtain ⟨hlimit, hrefusal, hflush⟩ := ih sink'
              rw [deliver_of_taken htake]
              exact ⟨hlimit.trans hkeeps.1, hrefusal.trans hkeeps.2.1, hflush.trans hkeeps.2.2⟩

/-- To deliver events without a flush is to write their whole text at once. -/
theorem deliver_eq_write (sink : Sink) (events : List Event) (hflush : Event.flushed ∉ events) :
    (sink.deliver events).failure = (sink.write (Event.written events)).1 ∧
      (sink.deliver events).sink = (sink.write (Event.written events)).2 := by
  induction events generalizing sink with
  | nil =>
      refine ⟨rfl, eq_of_bytes_eq rfl rfl rfl ?_⟩
      rw [bytes_write]
      simp [deliver, Text.Utf8.encode]
  | cons event rest ih =>
      have hrest : Event.flushed ∉ rest := fun hmem => hflush (List.mem_cons_of_mem event hmem)
      cases event with
      | asked exchange => simpa [deliver, take, Delivery.after] using ih sink hrest
      | noted record => simpa [deliver, take, Delivery.after] using ih sink hrest
      | wrote text =>
          rw [Event.written_wrote_cons, write_append]
          cases hwrite : sink.write text with
          | mk failure sink' =>
              cases failure with
              | some failure => simp [deliver, take, hwrite]
              | none => simpa [deliver, take, hwrite, Delivery.after] using ih sink' hrest
      | flushed => exact absurd List.mem_cons_self hflush

theorem failure_deliver_unhindered {sink : Sink} (hlimit : sink.limit = none)
    (hflush : sink.flushFailure = none) (events : List Event) :
    (sink.deliver events).failure = none ∧
      (sink.deliver events).sink.bytes =
        sink.bytes ++ Text.Utf8.encode (Event.written events) := by
  induction events generalizing sink with
  | nil => simp [deliver, Text.Utf8.encode]
  | cons event rest ih =>
      cases event with
      | asked exchange => simpa [deliver, take, Delivery.after] using ih hlimit hflush
      | noted record => simpa [deliver, take, Delivery.after] using ih hlimit hflush
      | wrote text =>
          obtain ⟨htaken, hbytes⟩ := write_of_limit_eq_none sink text hlimit
          have htake : sink.take (.wrote text) = (none, (sink.write text).2) :=
            Prod.ext htaken rfl
          have hlater : (sink.write text).2.limit = none := hlimit
          obtain ⟨hnone, hrest⟩ := ih hlater hflush
          rw [deliver_of_taken htake]
          refine ⟨hnone, hrest.trans ?_⟩
          rw [hbytes, Event.written_wrote_cons, Text.Utf8.encode_append, List.append_assoc]
      | flushed => simpa [deliver, take, hflush, Delivery.after] using ih hlimit hflush

end Sink

namespace Run

variable {State α : Type}

/-- A run without the state in which it leaves the source. -/
def seen (run : Run State α) : Run Unit α :=
  ⟨run.outcome, run.exchanges, run.records, run.sink, ()⟩

end Run

namespace Script

variable {State α ι : Type}

/-- The run of a script on a sink is the delivery of its course. -/
theorem seen_run (source : Source State) (script : Script α) (state : State) (sink : Sink) :
    (script.run source state sink).seen =
      (sink.deliver (script.course source state).events).toRun
        (script.course source state).outcome := by
  induction script generalizing state sink with
  | done result => rfl
  | stop failure => rfl
  | ask query next ih =>
      exact congrArg (Run.afterExchange _) (ih _ (source.answer state query).2 sink)
  | log record next ih => exact congrArg (Run.afterRecord record) (ih state sink)
  | write text next ih =>
      cases hwrite : sink.write text with
      | mk failure sink' =>
          cases failure with
          | some failure =>
              simp [run, course, Sink.deliver, Sink.take, hwrite, Run.seen, Delivery.toRun]
          | none =>
              have htake : sink.take (.wrote text) = (none, sink') := hwrite
              simp only [run, course, Course.events_after, Course.outcome_after, hwrite]
              rw [Sink.deliver_of_taken htake]
              exact ih state sink'
  | flush next ih =>
      cases hflush : sink.flushFailure with
      | some cause => simp [run, course, Sink.deliver, Sink.take, hflush, Run.seen, Delivery.toRun]
      | none =>
          have htake : sink.take .flushed = (none, sink) := by
            simp [Sink.take, hflush]
          simp only [run, course, Course.events_after, Course.outcome_after, hflush]
          rw [Sink.deliver_of_taken htake]
          exact ih state sink

theorem run_delivers (source : Source State) (script : Script α) (state : State) (sink : Sink) :
    (script.run source state sink).outcome =
        ((sink.deliver (script.course source state).events).toRun
          (script.course source state).outcome).outcome ∧
      (script.run source state sink).exchanges =
        Event.exchanges (sink.deliver (script.course source state).events).attempted ∧
      (script.run source state sink).records =
        Event.records (sink.deliver (script.course source state).events).attempted ∧
      (script.run source state sink).sink =
        (sink.deliver (script.course source state).events).sink := by
  have hseen := seen_run source script state sink
  exact ⟨congrArg (fun run : Run Unit α => run.outcome) hseen,
    congrArg (fun run : Run Unit α => run.exchanges) hseen,
    congrArg (fun run : Run Unit α => run.records) hseen,
    congrArg (fun run : Run Unit α => run.sink) hseen⟩

/-- The run of a script on a sink that is not hindered shows its whole course. -/
theorem run_unhindered (source : Source State) (script : Script α) (state : State)
    (sink : Sink) :
    (script.run source state sink.unhindered).outcome = (script.course source state).outcome ∧
      (script.run source state sink.unhindered).exchanges =
        Event.exchanges (script.course source state).events ∧
      (script.run source state sink.unhindered).records =
        Event.records (script.course source state).events ∧
      (script.run source state sink.unhindered).sink.bytes =
        sink.bytes ++ Text.Utf8.encode (Event.written (script.course source state).events) := by
  obtain ⟨houtcome, hexchanges, hrecords, hsink⟩ :=
    run_delivers source script state sink.unhindered
  have hlimit : sink.unhindered.limit = none := rfl
  obtain ⟨hnone, hbytes⟩ := Sink.failure_deliver_unhindered hlimit rfl
    (script.course source state).events
  have hall := Sink.attempted_of_failure_eq_none hnone
  rw [hall] at hexchanges hrecords
  refine ⟨?_, hexchanges, hrecords, ?_⟩
  · rw [houtcome]
    simp only [Delivery.toRun, hnone]
  · rw [hsink]
    exact hbytes

theorem state_run_unhindered (source : Source State) (script : Script α) (state : State)
    (sink : Sink) :
    (script.run source state sink.unhindered).state = (script.course source state).state := by
  induction script generalizing state sink with
  | done result => rfl
  | stop failure => rfl
  | ask query next ih => exact ih _ (source.answer state query).2 sink
  | log record next ih => exact ih state sink
  | write text next ih =>
      have htaken := (Sink.write_of_limit_eq_none sink.unhindered text rfl).1
      have hrest := ih state (sink.unhindered.write text).2
      simp only [run, course]
      rw [show sink.unhindered.write text = (none, (sink.unhindered.write text).2) from
        Prod.ext htaken rfl]
      exact hrest
  | flush next ih => exact ih state sink

theorem run_unlimited (source : Source State) (script : Script α) (state : State) :
    (script.run source state Sink.unlimited).outcome = (script.course source state).outcome ∧
      (script.run source state Sink.unlimited).exchanges =
        Event.exchanges (script.course source state).events ∧
      (script.run source state Sink.unlimited).records =
        Event.records (script.course source state).events ∧
      (script.run source state Sink.unlimited).sink.bytes =
        Text.Utf8.encode (Event.written (script.course source state).events) ∧
      (script.run source state Sink.unlimited).state = (script.course source state).state := by
  obtain ⟨houtcome, hexchanges, hrecords, hbytes⟩ :=
    run_unhindered source script state Sink.unlimited
  exact ⟨houtcome, hexchanges, hrecords, hbytes,
    state_run_unhindered source script state Sink.unlimited⟩

theorem mem_queries_of_course {source : Source State} {script : Script α} {state : State}
    {query : Query}
    (hmem : query ∈
      (Event.exchanges (script.course source state).events).map Exchange.query) :
    query ∈ (script.run source state Sink.unlimited).queries := by
  have hexchanges := (run_unlimited source script state).2.1
  unfold Run.queries
  rwa [hexchanges]

/-! ## Going through a list -/

/--
The runs of a script for the elements of a list, each on a sink of its own and from where the one
before left the source.
-/
def rounds (source : Source State) (body : ι -> Script Unit) :
    List ι -> State -> List (Run State Unit)
  | [], _ => []
  | item :: rest, state =>
      (body item).run source state Sink.unlimited ::
        rounds source body rest ((body item).run source state Sink.unlimited).state

theorem map_seen_rounds {source : Source State} {body : ι -> Script Unit}
    {shown : ι -> Run Unit Unit}
    (hbody : ∀ item state, ((body item).run source state Sink.unlimited).seen = shown item)
    (items : List ι) (state : State) :
    (rounds source body items state).map Run.seen = items.map shown := by
  induction items generalizing state with
  | nil => rfl
  | cons item rest ih =>
      rw [rounds, List.map_cons, List.map_cons, hbody, ih]

/-- To go through a list is to make its rounds one after the other. -/
theorem course_each {body : ι -> Script Unit} {items : List ι}
    (hbody : ∀ item ∈ items, (body item).Plain) (source : Source State) (state : State) :
    Event.exchanges ((each body items).course source state).events =
        (rounds source body items state).flatMap Run.exchanges ∧
      Event.records ((each body items).course source state).events =
        (rounds source body items state).flatMap Run.records ∧
      Text.Utf8.encode (Event.written ((each body items).course source state).events) =
        (rounds source body items state).flatMap fun round => round.sink.bytes := by
  induction items generalizing state with
  | nil => exact ⟨rfl, rfl, rfl⟩
  | cons item rest ih =>
      obtain ⟨-, hexchanges, hrecords, hbytes, hstate⟩ := run_unlimited source (body item) state
      obtain ⟨hexchanges', hrecords', hbytes'⟩ :=
        ih (fun other hother => hbody other (List.mem_cons_of_mem item hother))
          ((body item).course source state).state
      rw [each, (hbody item List.mem_cons_self).course_bind]
      simp only [rounds, List.flatMap_cons, Event.exchanges_append, Event.records_append,
        Event.written_append, Text.Utf8.encode_append, hexchanges', hrecords', hbytes']
      rw [hexchanges, hrecords, hbytes, hstate]
      exact ⟨rfl, rfl, rfl⟩

end Script

end DisplayInventory
