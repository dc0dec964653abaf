import DisplayInventory.Report.Script
import DisplayInventory.Report.Sink
import DisplayInventory.Text.Utf8

/-!
# Carrying out a script

A script is carried out over a source of answers and a sink.  The run records everything that can
be seen of it: how it ended, the questions with their answers, the log, and the state in which the
source and the sink are left.  Nothing is done behind a write or a flush that fails.
-/

namespace DisplayInventory

/-- What a carried out script leaves behind. -/
structure Run (State α : Type) where
  outcome : Except Failure α
  /-- The questions asked, with their answers, in order. -/
  exchanges : List Exchange
  /-- The log records, in order. -/
  records : List Record
  sink : Sink
  state : State

namespace Run

variable {State α : Type}

/-- Whether the run never comes to an end, so that nothing comes after it. -/
def isEndless (run : Run State α) : Bool :=
  match run.outcome with
  | .error .endless => true
  | _ => false

def queries (run : Run State α) : List Query :=
  run.exchanges.map Exchange.query

def text (run : Run State α) : String :=
  Text.Utf8.decode run.sink.bytes

def afterExchange (exchange : Exchange) (run : Run State α) : Run State α :=
  { run with exchanges := exchange :: run.exchanges }

def afterRecord (record : Record) (run : Run State α) : Run State α :=
  { run with records := record :: run.records }

/-- The run continued from where it ended, unless it failed. -/
def andThen {β : Type} (run : Run State α) (next : α -> State -> Sink -> Run State β) :
    Run State β :=
  match run.outcome with
  | .error failure => ⟨.error failure, run.exchanges, run.records, run.sink, run.state⟩
  | .ok result =>
      let later := next result run.state run.sink
      { later with
        exchanges := run.exchanges ++ later.exchanges
        records := run.records ++ later.records }

theorem andThen_afterExchange {β : Type} (exchange : Exchange) (run : Run State α)
    (next : α -> State -> Sink -> Run State β) :
    (run.afterExchange exchange).andThen next = (run.andThen next).afterExchange exchange := by
  cases run with
  | mk outcome exchanges records sink state => cases outcome <;> rfl

theorem andThen_afterRecord {β : Type} (record : Record) (run : Run State α)
    (next : α -> State -> Sink -> Run State β) :
    (run.afterRecord record).andThen next = (run.andThen next).afterRecord record := by
  cases run with
  | mk outcome exchanges records sink state => cases outcome <;> rfl

end Run

namespace Script

variable {State α : Type}

def run (source : Source State) : Script α -> State -> Sink -> Run State α
  | .done result, state, sink => ⟨.ok result, [], [], sink, state⟩
  | .stop failure, state, sink => ⟨.error failure, [], [], sink, state⟩
  | .ask query next, state, sink =>
      let (answer, state') := source.answer state query
      ((next answer).run source state' sink).afterExchange ⟨query, answer⟩
  | .log record next, state, sink =>
      (next.run source state sink).afterRecord record
  | .write text next, state, sink =>
      match sink.write text with
      | (some failure, sink') => ⟨.error failure, [], [], sink', state⟩
      | (none, sink') => next.run source state sink'
  | .flush next, state, sink =>
      match sink.flushFailure with
      | some cause => ⟨.error (.flush cause), [], [], sink, state⟩
      | none => next.run source state sink

/--
To carry out a script and what follows it is to carry out the script, and then what follows from the
state and the sink that it left.
-/
theorem run_bind {β : Type} (source : Source State) (script : Script α)
    (next : α -> Script β) (state : State) (sink : Sink) :
    (script.bind next).run source state sink =
      (script.run source state sink).andThen fun result => (next result).run source := by
  induction script generalizing state sink with
  | done result => rfl
  | stop failure => rfl
  | ask query rest ih => simp [bind, run, ih, Run.andThen_afterExchange]
  | log record rest ih => simp [bind, run, ih, Run.andThen_afterRecord]
  | write text rest ih =>
      simp only [bind, run]
      split
      · rfl
      · exact ih _ _
  | flush rest ih =>
      simp only [bind, run]
      split
      · rfl
      · exact ih _ _

/--
Carries out a script a number of times, each time from the state and the sink that the time before
left, whether it failed or not.  Behind a run that does not end there is no other.
-/
def runs (source : Source State) (script : Script α) :
    Nat -> State -> Sink -> List (Run State α)
  | 0, _, _ => []
  | times + 1, state, sink =>
      let first := script.run source state sink
      first ::
        if first.isEndless then [] else runs source script times first.state first.sink

end Script

end DisplayInventory
