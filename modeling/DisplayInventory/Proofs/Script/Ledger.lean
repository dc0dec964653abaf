import DisplayInventory.Proofs.Script.Course

/-!
# Ledgers of records

A ledger tells which records are due for an answered question.  That may depend on what was asked
before, of which a ledger keeps on its page as much as it needs.  A script is true to a ledger if it
leaves the records that are due, and no others, before it goes on to the next question; then its
records can be read off its exchanges.
-/

namespace DisplayInventory

structure Ledger (σ : Type) where
  /-- The page after an exchange. -/
  after : σ -> Exchange -> σ
  /-- The records due for an exchange on a page. -/
  due : σ -> Exchange -> List Record

namespace Ledger

variable {σ : Type} (ledger : Ledger σ)

def track : σ -> List Exchange -> List (σ × Exchange)
  | _, [] => []
  | page, exchange :: rest => (page, exchange) :: track (ledger.after page exchange) rest

def records (page : σ) (exchanges : List Exchange) : List Record :=
  (ledger.track page exchanges).flatMap fun entry => ledger.due entry.1 entry.2

theorem map_snd_track (page : σ) (exchanges : List Exchange) :
    (ledger.track page exchanges).map Prod.snd = exchanges := by
  induction exchanges generalizing page with
  | nil => rfl
  | cons exchange rest ih => rw [track, List.map_cons, ih]

theorem records_cons (page : σ) (exchange : Exchange) (rest : List Exchange) :
    ledger.records page (exchange :: rest) =
      ledger.due page exchange ++ ledger.records (ledger.after page exchange) rest := by
  rw [records, track, List.flatMap_cons]
  rfl

end Ledger

namespace Script

variable {State σ α β : Type} {ledger : Ledger σ}

/--
Whether a script is true to a ledger from a page on, on which records are still owed.  Its questions
come to pages that `during` allows, and `ends` is the page at which a result leaves the ledger.
-/
def TrueTo (ledger : Ledger σ) (during : σ -> Prop) (ends : α -> σ) :
    Script α -> σ -> List Record -> Prop
  | .done result, page, owed => owed = [] ∧ page = ends result
  | .stop _, _, owed => owed = []
  | .ask query next, page, owed =>
      owed = [] ∧ during page ∧ ∀ answer : query.Answer,
        (next answer).TrueTo ledger during ends (ledger.after page ⟨query, answer⟩)
          (ledger.due page ⟨query, answer⟩)
  | .log record next, page, owed =>
      ∃ rest, owed = record :: rest ∧ next.TrueTo ledger during ends page rest
  | .write _ next, page, owed => next.TrueTo ledger during ends page owed
  | .flush next, page, owed => next.TrueTo ledger during ends page owed

namespace TrueTo

variable {during during' : σ -> Prop}

theorem bind {script : Script α} {next : α -> Script β} {between : α -> σ} {ends : β -> σ}
    {page : σ} {owed : List Record} (hscript : script.TrueTo ledger during between page owed)
    (hnext : ∀ result, (next result).TrueTo ledger during ends (between result) []) :
    (script.bind next).TrueTo ledger during ends page owed := by
  induction script generalizing page owed with
  | done result =>
      obtain ⟨rfl, rfl⟩ := hscript
      exact hnext result
  | stop failure => exact hscript
  | ask query rest ih =>
      exact ⟨hscript.1, hscript.2.1, fun answer => ih answer (hscript.2.2 answer)⟩
  | log record rest ih =>
      obtain ⟨later, howed, hrest⟩ := hscript
      exact ⟨later, howed, ih hrest⟩
  | write text rest ih => exact ih hscript
  | flush rest ih => exact ih hscript

theorem mono (hduring : ∀ page, during page -> during' page) {script : Script α}
    {ends : α -> σ} {page : σ} {owed : List Record}
    (htrue : script.TrueTo ledger during ends page owed) :
    script.TrueTo ledger during' ends page owed := by
  induction script generalizing page owed with
  | done result => exact htrue
  | stop failure => exact htrue
  | ask query rest ih =>
      exact ⟨htrue.1, hduring page htrue.2.1, fun answer => ih answer (htrue.2.2 answer)⟩
  | log record rest ih =>
      obtain ⟨later, howed, hrest⟩ := htrue
      exact ⟨later, howed, ih hrest⟩
  | write text rest ih => exact ih htrue
  | flush rest ih => exact ih htrue

theorem compositional (page : σ) :
    Compositional fun script => script.TrueTo ledger during (fun _ => page) page [] :=
  ⟨⟨rfl, rfl⟩, fun hfirst hsecond => hfirst.bind fun _ => hsecond⟩

/--
The records of a true script are those owed, and then those due for its exchanges, which come to
allowed pages only.
-/
theorem course {script : Script α} {ends : α -> σ} {page : σ} {owed : List Record}
    (htrue : script.TrueTo ledger during ends page owed) (source : Source State)
    (state : State) :
    let events := (script.course source state).events
    Event.records events = owed ++ ledger.records page (Event.exchanges events) ∧
      ∀ entry ∈ ledger.track page (Event.exchanges events), during entry.1 := by
  induction script generalizing page owed state with
  | done result =>
      rw [htrue.1]
      exact ⟨rfl, fun _ hentry => absurd hentry List.not_mem_nil⟩
  | stop failure =>
      rw [show owed = [] from htrue]
      exact ⟨rfl, fun _ hentry => absurd hentry List.not_mem_nil⟩
  | ask query next ih =>
      obtain ⟨hrecords, hpages⟩ :=
        ih _ (htrue.2.2 (source.answer state query).1) (source.answer state query).2
      rw [htrue.1]
      refine ⟨?_, List.forall_mem_cons.mpr ⟨htrue.2.1, hpages⟩⟩
      simpa [Script.course, Ledger.records_cons] using hrecords
  | log record next ih =>
      obtain ⟨rest, rfl, hnext⟩ := htrue
      simpa [Script.course] using ih hnext state
  | write text next ih => simpa [Script.course] using ih htrue state
  | flush next ih => simpa [Script.course] using ih htrue state

end TrueTo

end Script

end DisplayInventory
