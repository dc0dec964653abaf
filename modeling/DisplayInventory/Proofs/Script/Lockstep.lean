import DisplayInventory.Proofs.Script.Inquiry

/-!
# Scripts in lockstep

Two scripts go in lockstep if they ask the same questions, leave the same records and write at the
same places.  What they write may be worded in two ways, but only in the blocks that an answer calls
for, and these are written before the next question.  So whatever is answered, the two go the same
course, and their texts fall into the same pieces.
-/

namespace DisplayInventory

/-- A piece of a text: fixed, or a block that is still to be worded. -/
inductive Piece (β : Type) where
  | fixed (text : String)
  | varied (block : β)

namespace Piece

variable {β : Type}

def text (wording : β -> String) : Piece β -> String
  | .fixed text => text
  | .varied block => wording block

def block? : Piece β -> Option β
  | .fixed _ => none
  | .varied block => some block

def worded (wording : β -> String) (pieces : List (Piece β)) : String :=
  String.join (pieces.map (text wording))

@[simp] theorem worded_nil (wording : β -> String) : worded wording [] = "" := rfl

@[simp] theorem worded_append (wording : β -> String) (first second : List (Piece β)) :
    worded wording (first ++ second) = worded wording first ++ worded wording second := by
  simp [worded]

theorem worded_cons (wording : β -> String) (piece : Piece β) (rest : List (Piece β)) :
    worded wording (piece :: rest) = piece.text wording ++ worded wording rest := by
  simp [worded]

@[simp] theorem worded_fixed (wording : β -> String) (text : String) :
    worded wording [.fixed text] = text := by
  simp [worded, Piece.text]

theorem worded_varied (wording : β -> String) (block : β) :
    worded wording ([block].map .varied) = wording block := by
  simp [worded, text]

theorem filterMap_block?_varied (blocks : List β) :
    (blocks.map varied).filterMap block? = blocks := by
  rw [List.filterMap_map]
  exact List.filterMap_some

end Piece

namespace Script

variable {State α γ β ι : Type}

/--
Two scripts in lockstep, behind an answer of which some blocks are still due.  `due` tells the
blocks that an answered question calls for, and every block is worded by `first` in the one script
and by `second` in the other.
-/
inductive Lockstep (first second : β -> String) (due : Exchange -> List β) :
    List β -> Script α -> Script α -> Prop where
  | done (result : α) : Lockstep first second due [] (.done result) (.done result)
  | stop (failure : Failure) : Lockstep first second due [] (.stop failure) (.stop failure)
  | ask (query : Query) {next next' : query.Answer -> Script α}
      (hnext : ∀ answer,
        Lockstep first second due (due ⟨query, answer⟩) (next answer) (next' answer)) :
      Lockstep first second due [] (.ask query next) (.ask query next')
  | log (record : Record) {left : List β} {next next' : Script α}
      (hnext : Lockstep first second due left next next') :
      Lockstep first second due left (.log record next) (.log record next')
  | write (pieces : List (Piece β)) {left : List β} {next next' : Script α}
      (hnext : Lockstep first second due left next next') :
      Lockstep first second due (pieces.filterMap Piece.block? ++ left)
        (.write (Piece.worded first pieces) next) (.write (Piece.worded second pieces) next')
  | flush {next next' : Script α} (hnext : Lockstep first second due [] next next') :
      Lockstep first second due [] (.flush next) (.flush next')

variable {first second : β -> String} {due : Exchange -> List β}

namespace Lockstep

theorem bind {left : List β} {script script' : Script α} {next next' : α -> Script γ}
    (hscript : Lockstep first second due left script script')
    (hnext : ∀ result, Lockstep first second due [] (next result) (next' result)) :
    Lockstep first second due left (script.bind next) (script'.bind next') := by
  induction hscript with
  | done result => exact hnext result
  | stop failure => exact .stop failure
  | ask query _ ih => exact .ask query ih
  | log record _ ih => exact .log record ih
  | write pieces _ ih => exact .write pieces ih
  | flush _ ih => exact .flush ih

theorem each {body body' : ι -> Script Unit}
    (hbody : ∀ item, Lockstep first second due [] (body item) (body' item)) (items : List ι) :
    Lockstep first second due [] (each body items) (each body' items) := by
  induction items with
  | nil => exact .done ()
  | cons item rest ih => exact (hbody item).bind fun _ => ih

theorem onlyIf {script script' : Script Unit} (condition : Bool)
    (hscript : Lockstep first second due [] script script') :
    Lockstep first second due [] (onlyIf condition script) (onlyIf condition script') := by
  cases condition with
  | false => exact .done ()
  | true => exact hscript

/-- A script goes in lockstep with itself, if its questions call for no blocks. -/
theorem refl {script : Script α}
    (hasks : script.Asks (fun _ _ => True) fun query => ∀ answer, due ⟨query, answer⟩ = []) :
    Lockstep first second due [] script script := by
  induction script with
  | done result => exact .done result
  | stop failure => exact .stop failure
  | ask query next ih =>
      apply Lockstep.ask
      intro answer
      rw [hasks.1 answer]
      exact ih answer (hasks.2 answer trivial)
  | log record next ih => exact .log record (ih hasks)
  | write text next ih =>
      have hrest := ih hasks
      have hwrite := Lockstep.write [.fixed text] hrest
      simpa [List.filterMap_cons, Piece.block?] using hwrite
  | flush next ih => exact .flush (ih hasks)

/-- What two scripts in lockstep do, from one state of one source. -/
theorem course_eq {left : List β} {script script' : Script α}
    (hscript : Lockstep first second due left script script') (source : Source State)
    (state : State) :
    (script'.course source state).outcome = (script.course source state).outcome ∧
      Event.exchanges (script'.course source state).events =
        Event.exchanges (script.course source state).events ∧
      Event.records (script'.course source state).events =
        Event.records (script.course source state).events ∧
      ∃ pieces : List (Piece β),
        Event.written (script.course source state).events = Piece.worded first pieces ∧
          Event.written (script'.course source state).events = Piece.worded second pieces ∧
          pieces.filterMap Piece.block? =
            left ++ (Event.exchanges (script.course source state).events).flatMap due := by
  induction hscript generalizing state with
  | done result => exact ⟨rfl, rfl, rfl, [], rfl, rfl, rfl⟩
  | stop failure => exact ⟨rfl, rfl, rfl, [], rfl, rfl, rfl⟩
  | ask query _ ih =>
      obtain ⟨houtcome, hexchanges, hrecords, pieces, hfirst, hsecond, hblocks⟩ :=
        ih (source.answer state query).1 (source.answer state query).2
      refine ⟨houtcome, congrArg (_ :: ·) hexchanges, hrecords, pieces, ?_, ?_, ?_⟩
      · simpa [course] using hfirst
      · simpa [course] using hsecond
      · simpa [course] using hblocks
  | log record _ ih =>
      obtain ⟨houtcome, hexchanges, hrecords, pieces, hfirst, hsecond, hblocks⟩ := ih state
      refine ⟨houtcome, hexchanges, congrArg (record :: ·) hrecords, pieces, ?_, ?_, hblocks⟩
      · simpa [course] using hfirst
      · simpa [course] using hsecond
  | write written _ ih =>
      obtain ⟨houtcome, hexchanges, hrecords, pieces, hfirst, hsecond, hblocks⟩ := ih state
      refine ⟨houtcome, hexchanges, hrecords, written ++ pieces, ?_, ?_, ?_⟩
      · simp [course, hfirst]
      · simp [course, hsecond]
      · rw [List.filterMap_append, hblocks, List.append_assoc]
        rfl
  | flush _ ih =>
      obtain ⟨houtcome, hexchanges, hrecords, pieces, hfirst, hsecond, hblocks⟩ := ih state
      refine ⟨houtcome, hexchanges, hrecords, pieces, ?_, ?_, hblocks⟩
      · simpa [course] using hfirst
      · simpa [course] using hsecond

end Lockstep

end Script

end DisplayInventory
