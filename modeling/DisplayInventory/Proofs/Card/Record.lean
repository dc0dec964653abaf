import DisplayInventory.Card.History

/-!
# The record of a card

A recording card writes every question down as it is asked.  Its record grows by what reports ask
and is cut only where it is taken, so what was taken from it and what is still in it are, one behind
the other, what all reports have asked.
-/

namespace DisplayInventory.RecordingCard

/-- A script leaves its questions behind those of the record, whatever a sink makes of it. -/
theorem state_run {α : Type} (recording : RecordingCard) (script : Script α) (asked : List Query)
    (sink : Sink) :
    (script.run recording.source asked sink).state =
      asked ++ (script.run recording.source asked sink).queries := by
  induction script generalizing asked sink with
  | done result => exact (List.append_nil asked).symm
  | stop failure => exact (List.append_nil asked).symm
  | ask query next ih =>
      have hlater := ih (recording.card.answer query) (asked ++ [query]) sink
      rw [List.append_assoc] at hlater
      exact hlater
  | log record next ih => exact ih asked sink
  | write text next ih =>
      simp only [Script.run]
      cases hwrite : sink.write text with
      | mk failure sink' =>
          cases failure with
          | some cause => exact (List.append_nil asked).symm
          | none => exact ih asked sink'
  | flush next ih =>
      simp only [Script.run]
      cases hflush : sink.flushFailure with
      | some cause => exact (List.append_nil asked).symm
      | none => exact ih asked sink

/-! ## Histories in parts -/

theorem history_append (recording : RecordingCard) (first second : List Step) :
    recording.history (first ++ second) =
      ((recording.history first).1 ++ ((recording.history first).2.history second).1,
        ((recording.history first).2.history second).2) := by
  induction first generalizing recording with
  | nil => rfl
  | cons step rest ih =>
      simp only [List.cons_append, history]
      rw [ih]

/-- A history shows what the card shows for a step that it comes to, whatever comes later. -/
theorem exists_shown_history (recording : RecordingCard) (steps later : List Step) (step : Step) :
    ∃ rest, (recording.history (steps ++ step :: later)).1 =
      (recording.history steps).1 ++ ((recording.history steps).2.apply step).1 :: rest := by
  rw [history_append]
  exact ⟨_, rfl⟩

/-! ## Questions in a history -/

def Shown.reported : Shown -> List Query
  | .report run => run.queries
  | .nothing | .found _ | .length _ | .asked _ => []

def Step.takes : Step -> Shown -> List Query
  | .takeAsked, .asked queries => queries
  | _, _ => []

/-- The questions taken from the record in the course of steps that show this. -/
def taken (steps : List Step) (shown : List Shown) : List Query :=
  (List.zipWith Step.takes steps shown).flatten

/-- To cut a blob is to set what is left of it, or nothing if there is none. -/
theorem truncateBlob_cases (recording : RecordingCard) (id : UInt64) (length : Nat) :
    (∃ bytes, recording.card.answer (.blob id) = .ok bytes ∧
      (recording.truncateBlob id length).2 = recording.set (.blob id) (bytes.take length)) ∨
    (∀ bytes, recording.card.answer (.blob id) ≠ .ok bytes) ∧
      (recording.truncateBlob id length).2 = recording := by
  simp only [truncateBlob, Card.answer, Card.fetch]
  cases recording.card.blobs.find? id with
  | none => exact .inr ⟨by simp, rfl⟩
  | some held =>
      cases held with
      | error cause => exact .inr ⟨by simp, rfl⟩
      | ok bytes => exact .inl ⟨bytes, rfl, rfl⟩

/-- To cut a blob changes blobs and nothing else. -/
theorem exists_blobs_truncateBlob (recording : RecordingCard) (id : UInt64) (length : Nat) :
    ∃ blobs, (recording.truncateBlob id length).2 =
      recording.edit fun card => { card with blobs := blobs } := by
  obtain ⟨bytes, -, hcut⟩ | ⟨-, hsame⟩ := recording.truncateBlob_cases id length
  · exact ⟨recording.card.blobs.insert id (.ok (bytes.take length)), hcut⟩
  · exact ⟨recording.card.blobs, hsame⟩

/-- No step loses a question: what it takes and leaves is what there was and what it asks. -/
theorem takes_append_asked_apply (recording : RecordingCard) (step : Step) :
    step.takes (recording.apply step).1 ++ (recording.apply step).2.asked =
      recording.asked ++ (recording.apply step).1.reported := by
  cases step with
  | report options =>
      exact recording.state_run (Report.script options) recording.asked Sink.unlimited
  | takeAsked => rfl
  | truncateBlob id length =>
      obtain ⟨blobs, hblobs⟩ := recording.exists_blobs_truncateBlob id length
      simp only [apply, hblobs]
      exact (List.append_nil recording.asked).symm
  | addConnector | addEncoder | addCrtc | addFramebuffer | list | setProperty | withdrawProperty
  | setBlob | withdrawBlob | withhold | readAsked =>
      exact (List.append_nil recording.asked).symm

theorem taken_append_asked_history (recording : RecordingCard) (steps : List Step) :
    taken steps (recording.history steps).1 ++ (recording.history steps).2.asked =
      recording.asked ++ (recording.history steps).1.flatMap Shown.reported := by
  induction steps generalizing recording with
  | nil => exact (List.append_nil recording.asked).symm
  | cons step rest ih =>
      calc taken (step :: rest) (recording.history (step :: rest)).1 ++
            (recording.history (step :: rest)).2.asked
        _ = step.takes (recording.apply step).1 ++
              (taken rest ((recording.apply step).2.history rest).1 ++
                ((recording.apply step).2.history rest).2.asked) :=
            List.append_assoc _ _ _
        _ = (step.takes (recording.apply step).1 ++ (recording.apply step).2.asked) ++
              ((recording.apply step).2.history rest).1.flatMap Shown.reported := by
            rw [ih, List.append_assoc]
        _ = recording.asked ++ (recording.history (step :: rest)).1.flatMap Shown.reported := by
            rw [takes_append_asked_apply, List.append_assoc]
            rfl

end DisplayInventory.RecordingCard
