import DisplayInventory.Proofs.Script.Delivery

/-!
# Writes as offers

Whoever writes a text offers it to the sink until all of it is taken.  A sink takes a part of what
it is offered, or it answers with a failure; but an offer that is only interrupted is made once
more, so a write need not come to an end.  With the number of offers bounded every write does, and
so does a run.  Two offers for a write are as good as any number: the first takes what there is room
for, and whatever the second is answered will be answered for ever.
-/

namespace DisplayInventory

theorem IoError.isInterruption_iff (cause : IoError) :
    cause.isInterruption = true ↔ cause = .system 4 := by
  cases cause <;> simp [isInterruption]

theorem Failure.ofRefusal_eq (cause : IoError) :
    ofRefusal cause = if cause = .system 4 then .endless else .write cause := by
  simp only [ofRefusal, cause.isInterruption_iff]

namespace Sink

def offer (sink : Sink) (bytes : List UInt8) : Except IoError Nat × Sink :=
  let room := sink.room bytes.length
  if room = 0 then (.error sink.refusal, sink)
  else (.ok room, sink.keep ⟨bytes.toArray⟩ room)

/--
Offers bytes until all are taken or an offer fails; nothing is told if that is not so after a number
of offers.
-/
def persist : Nat -> Sink -> List UInt8 -> Option (Option Failure × Sink)
  | _, sink, [] => some (none, sink)
  | 0, _, _ :: _ => none
  | offers + 1, sink, byte :: rest =>
      match sink.offer (byte :: rest) with
      | (.ok count, sink') => persist offers sink' ((byte :: rest).drop count)
      | (.error cause, sink') =>
          if cause = .system 4 then persist offers sink' (byte :: rest)
          else some (some (.write cause), sink')

theorem persist_nil (offers : Nat) (sink : Sink) : persist offers sink [] = some (none, sink) := by
  cases offers <;> rfl

theorem room_le (sink : Sink) (count : Nat) : sink.room count ≤ count := by
  unfold room
  cases sink.limit with
  | none => exact Nat.le_refl count
  | some limit => exact Nat.min_le_left count _

/-- A sink that takes only a part of a text has no room behind it. -/
theorem room_write_of_short (sink : Sink) (text : String)
    (hshort : sink.room (Text.Utf8.encode text).length < (Text.Utf8.encode text).length)
    (count : Nat) : (sink.write text).2.room count = 0 := by
  have hsize := congrArg List.length (bytes_write sink text)
  rw [List.length_append, List.length_take, length_bytes, length_bytes] at hsize
  unfold room at hshort hsize ⊢
  rw [(write_keeps_settings sink text).1, hsize]
  cases hlimit : sink.limit with
  | none => simp [hlimit] at hshort
  | some limit =>
      simp only [hlimit] at hshort ⊢
      omega

/-- A sink without room answers every offer alike, and takes nothing. -/
theorem persist_of_full {sink : Sink} (hfull : ∀ count, sink.room count = 0) (offers : Nat)
    (byte : UInt8) (rest : List UInt8) :
    persist (offers + 1) sink (byte :: rest) =
      if sink.refusal = .system 4 then none else some (some (.write sink.refusal), sink) := by
  have hoffer : sink.offer (byte :: rest) = (.error sink.refusal, sink) := by
    simp [offer, hfull]
  by_cases hrefusal : sink.refusal = .system 4
  · rw [if_pos hrefusal]
    induction offers with
    | zero => simp [persist, hoffer, hrefusal]
    | succ offers ih =>
        rw [persist, hoffer]
        simpa [hrefusal] using ih
  · rw [if_neg hrefusal]
    simp [persist, hoffer, hrefusal]

theorem keep_toArray (sink : Sink) (text : String) :
    sink.keep ⟨(Text.Utf8.encode text).toArray⟩ (sink.room (Text.Utf8.encode text).length) =
      (sink.write text).2 := by
  refine eq_of_bytes_eq rfl rfl rfl ?_
  rw [bytes_keep, bytes_write]

theorem keep_zero (sink : Sink) (piece : ByteArray) : sink.keep piece 0 = sink :=
  eq_of_bytes_eq rfl rfl rfl (by simp [bytes_keep])

/-- A text for which there is no room is never taken, however many offers are made. -/
theorem persist_of_short (sink : Sink) (text : String)
    (hshort : sink.room (Text.Utf8.encode text).length < (Text.Utf8.encode text).length)
    (offers : Nat) :
    persist (offers + 2) sink (Text.Utf8.encode text) =
      if sink.refusal = .system 4 then none
      else some (some (.write sink.refusal), (sink.write text).2) := by
  have hkeep := keep_toArray sink text
  have hlast := persist_of_full (room_write_of_short sink text hshort)
  obtain ⟨byte, rest, hencode⟩ := List.exists_cons_of_length_pos (Nat.zero_lt_of_lt hshort)
  rw [hencode] at hshort hkeep ⊢
  by_cases hzero : sink.room (byte :: rest).length = 0
  · rw [hzero, keep_zero] at hkeep
    rw [← hkeep] at hlast ⊢
    exact hlast _ byte rest
  · obtain ⟨next, later, hleft⟩ := List.exists_cons_of_ne_nil
      (fun hnil => absurd (List.drop_eq_nil_iff.mp hnil) (Nat.not_le_of_lt hshort))
    have hoffer : sink.offer (byte :: rest) =
        (.ok (sink.room (byte :: rest).length), (sink.write text).2) := by
      rw [offer, hkeep, if_neg hzero]
    rw [persist, hoffer]
    simp only [hleft]
    exact hlast _ next later

theorem persist_of_room (sink : Sink) (text : String)
    (hroom : sink.room (Text.Utf8.encode text).length = (Text.Utf8.encode text).length)
    (offers : Nat) :
    persist (offers + 2) sink (Text.Utf8.encode text) = some (none, (sink.write text).2) := by
  have hkeep := keep_toArray sink text
  rw [hroom] at hkeep
  cases hencode : Text.Utf8.encode text with
  | nil =>
      rw [hencode, List.length_nil, keep_zero] at hkeep
      rw [persist_nil, ← hkeep]
  | cons byte rest =>
      rw [hencode] at hroom hkeep
      have hoffer : sink.offer (byte :: rest) =
          (.ok (byte :: rest).length, (sink.write text).2) := by
        rw [offer, hroom, hkeep, if_neg (by simp)]
      rw [persist, hoffer]
      simp only [List.drop_length, persist_nil]

/-- From the second offer on a write comes to what it comes to, or never does. -/
theorem persist_eq_write (sink : Sink) (text : String) (offers : Nat) :
    persist (offers + 2) sink (Text.Utf8.encode text) =
      if (sink.write text).1 = some .endless then none else some (sink.write text) := by
  have hfailure := write_failure sink text
  by_cases hshort : sink.room (Text.Utf8.encode text).length < (Text.Utf8.encode text).length
  · rw [if_pos hshort, Failure.ofRefusal_eq] at hfailure
    rw [persist_of_short sink text hshort]
    by_cases hrefusal : sink.refusal = .system 4
    · rw [if_pos hrefusal] at hfailure ⊢
      rw [if_pos hfailure]
    · rw [if_neg hrefusal] at hfailure ⊢
      rw [if_neg (by simp [hfailure]), ← hfailure]
  · rw [if_neg hshort] at hfailure
    have hroom := Nat.le_antisymm (sink.room_le _) (Nat.le_of_not_lt hshort)
    rw [persist_of_room sink text hroom, if_neg (by simp [hfailure]), ← hfailure]

end Sink

namespace Run

variable {State α : Type}

/-- The run in so far as it comes to an end. -/
def ended? (run : Run State α) : Option (Run State α) :=
  if run.isEndless then none else some run

theorem ended?_afterExchange (exchange : Exchange) (run : Run State α) :
    (run.afterExchange exchange).ended? = run.ended?.map (afterExchange exchange) :=
  (apply_ite (Option.map (afterExchange exchange)) _ none (some run)).symm

theorem ended?_afterRecord (record : Record) (run : Run State α) :
    (run.afterRecord record).ended? = run.ended?.map (afterRecord record) :=
  (apply_ite (Option.map (afterRecord record)) _ none (some run)).symm

end Run

namespace Script

variable {State α : Type}

/--
Carries out a script with every write made by at most a number of offers; nothing is told if one of
them needs more.
-/
def runWithin (source : Source State) (offers : Nat) :
    Script α -> State -> Sink -> Option (Run State α)
  | .done result, state, sink => some ⟨.ok result, [], [], sink, state⟩
  | .stop failure, state, sink => Run.ended? ⟨.error failure, [], [], sink, state⟩
  | .ask query next, state, sink =>
      let (answer, state') := source.answer state query
      ((next answer).runWithin source offers state' sink).map (.afterExchange ⟨query, answer⟩)
  | .log record next, state, sink =>
      (next.runWithin source offers state sink).map (.afterRecord record)
  | .write text next, state, sink =>
      match sink.persist offers (Text.Utf8.encode text) with
      | none => none
      | some (some failure, sink') => some ⟨.error failure, [], [], sink', state⟩
      | some (none, sink') => next.runWithin source offers state sink'
  | .flush next, state, sink =>
      match sink.flushFailure with
      | some cause => some ⟨.error (.flush cause), [], [], sink, state⟩
      | none => next.runWithin source offers state sink

/-- Two offers for a write are enough to tell every run that comes to an end. -/
theorem runWithin_eq (source : Source State) (script : Script α) (offers : Nat) (state : State)
    (sink : Sink) :
    script.runWithin source (offers + 2) state sink = (script.run source state sink).ended? := by
  induction script generalizing state sink with
  | done result => rfl
  | stop failure => rfl
  | ask query next ih =>
      simp only [runWithin, run, ih]
      exact (Run.ended?_afterExchange _ _).symm
  | log record next ih =>
      simp only [runWithin, run, ih]
      exact (Run.ended?_afterRecord _ _).symm
  | write text next ih =>
      simp only [runWithin, run, Sink.persist_eq_write]
      cases hwrite : sink.write text with
      | mk failure sink' =>
          cases failure with
          | none => simpa using ih state sink'
          | some failure => cases failure <;> simp [Run.ended?, Run.isEndless]
  | flush next ih =>
      simp only [runWithin, run]
      cases sink.flushFailure with
      | none => exact ih state sink
      | some cause => rfl

end Script

end DisplayInventory
