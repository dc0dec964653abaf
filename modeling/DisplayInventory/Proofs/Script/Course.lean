import DisplayInventory.Report.Run

/-!
# The course of a script

What a script does depends on the answers that it gets, and on nothing else as long as every write
and every flush succeeds.  Its course is everything that it then does: the events in order, the
result and the state in which the source is left.  A course knows no sink; what a sink makes of it
is told where courses are delivered.
-/

namespace DisplayInventory

inductive Event where
  | asked (exchange : Exchange)
  | noted (record : Record)
  | wrote (text : String)
  | flushed

namespace Event

def exchange? : Event -> Option Exchange
  | .asked exchange => some exchange
  | _ => none

def record? : Event -> Option Record
  | .noted record => some record
  | _ => none

def text : Event -> String
  | .wrote text => text
  | _ => ""

def exchanges (events : List Event) : List Exchange :=
  events.filterMap exchange?

def records (events : List Event) : List Record :=
  events.filterMap record?

def written (events : List Event) : String :=
  String.join (events.map text)

@[simp] theorem exchanges_nil : exchanges [] = [] := rfl

@[simp] theorem records_nil : records [] = [] := rfl

@[simp] theorem written_nil : written [] = "" := rfl

@[simp] theorem exchanges_append (first second : List Event) :
    exchanges (first ++ second) = exchanges first ++ exchanges second :=
  List.filterMap_append

@[simp] theorem records_append (first second : List Event) :
    records (first ++ second) = records first ++ records second :=
  List.filterMap_append

@[simp] theorem written_append (first second : List Event) :
    written (first ++ second) = written first ++ written second := by
  simp [written]

@[simp] theorem exchanges_asked_cons (exchange : Exchange) (rest : List Event) :
    exchanges (.asked exchange :: rest) = exchange :: exchanges rest := rfl

@[simp] theorem exchanges_noted_cons (record : Record) (rest : List Event) :
    exchanges (.noted record :: rest) = exchanges rest := rfl

@[simp] theorem exchanges_wrote_cons (text : String) (rest : List Event) :
    exchanges (.wrote text :: rest) = exchanges rest := rfl

@[simp] theorem exchanges_flushed_cons (rest : List Event) :
    exchanges (.flushed :: rest) = exchanges rest := rfl

@[simp] theorem records_asked_cons (exchange : Exchange) (rest : List Event) :
    records (.asked exchange :: rest) = records rest := rfl

@[simp] theorem records_noted_cons (record : Record) (rest : List Event) :
    records (.noted record :: rest) = record :: records rest := rfl

@[simp] theorem records_wrote_cons (text : String) (rest : List Event) :
    records (.wrote text :: rest) = records rest := rfl

@[simp] theorem records_flushed_cons (rest : List Event) :
    records (.flushed :: rest) = records rest := rfl

theorem written_cons (event : Event) (rest : List Event) :
    written (event :: rest) = event.text ++ written rest := by
  simp [written]

@[simp] theorem written_asked_cons (exchange : Exchange) (rest : List Event) :
    written (.asked exchange :: rest) = written rest := by
  simp [written_cons, text]

@[simp] theorem written_noted_cons (record : Record) (rest : List Event) :
    written (.noted record :: rest) = written rest := by
  simp [written_cons, text]

@[simp] theorem written_wrote_cons (piece : String) (rest : List Event) :
    written (.wrote piece :: rest) = piece ++ written rest := by
  simp [written_cons, text]

@[simp] theorem written_flushed_cons (rest : List Event) :
    written (.flushed :: rest) = written rest := by
  simp [written_cons, text]

end Event

/-- Everything that a script does as long as nothing fails to be written. -/
structure Course (State α : Type) where
  outcome : Except Failure α
  events : List Event
  state : State

namespace Course

variable {State α β : Type}

def after (event : Event) (course : Course State α) : Course State α :=
  { course with events := event :: course.events }

def andThen (course : Course State α) (next : α -> State -> Course State β) : Course State β :=
  match course.outcome with
  | .error failure => ⟨.error failure, course.events, course.state⟩
  | .ok result =>
      let later := next result course.state
      { later with events := course.events ++ later.events }

@[simp] theorem outcome_after (event : Event) (course : Course State α) :
    (course.after event).outcome = course.outcome := rfl

@[simp] theorem events_after (event : Event) (course : Course State α) :
    (course.after event).events = event :: course.events := rfl

@[simp] theorem state_after (event : Event) (course : Course State α) :
    (course.after event).state = course.state := rfl

theorem andThen_after (event : Event) (course : Course State α)
    (next : α -> State -> Course State β) :
    (course.after event).andThen next = (course.andThen next).after event := by
  cases course with
  | mk outcome events state => cases outcome <;> rfl

theorem andThen_of_ok {course : Course State α} {result : α} (hok : course.outcome = .ok result)
    (next : α -> State -> Course State β) :
    course.andThen next =
      ⟨(next result course.state).outcome, course.events ++ (next result course.state).events,
        (next result course.state).state⟩ := by
  simp [andThen, hok]

end Course

namespace Script

variable {State α β : Type}

def course (source : Source State) : Script α -> State -> Course State α
  | .done result, state => ⟨.ok result, [], state⟩
  | .stop failure, state => ⟨.error failure, [], state⟩
  | .ask query next, state =>
      let (answer, state') := source.answer state query
      ((next answer).course source state').after (.asked ⟨query, answer⟩)
  | .log record next, state => (next.course source state).after (.noted record)
  | .write text next, state => (next.course source state).after (.wrote text)
  | .flush next, state => (next.course source state).after .flushed

theorem course_bind (source : Source State) (script : Script α) (next : α -> Script β)
    (state : State) :
    (script.bind next).course source state =
      (script.course source state).andThen fun result => (next result).course source := by
  induction script generalizing state with
  | done result => rfl
  | stop failure => rfl
  | ask query rest ih => simp [bind, course, ih, Course.andThen_after]
  | log record rest ih => simp [bind, course, ih, Course.andThen_after]
  | write text rest ih => simp [bind, course, ih, Course.andThen_after]
  | flush rest ih => simp [bind, course, ih, Course.andThen_after]

/-! ## Properties that compose -/

/-- A property that a script has if the scripts have it that it is put together from. -/
structure Compositional (holds : Script Unit -> Prop) : Prop where
  done : holds (.done ())
  bind : ∀ {first second : Script Unit}, holds first -> holds second ->
    holds (first.bind fun _ => second)

namespace Compositional

variable {ι : Type} {holds : Script Unit -> Prop}

theorem each (hholds : Compositional holds) {body : ι -> Script Unit} {items : List ι}
    (hbody : ∀ item ∈ items, holds (body item)) : holds (each body items) := by
  induction items with
  | nil => exact hholds.done
  | cons item rest ih =>
      refine hholds.bind (hbody item List.mem_cons_self) (ih ?_)
      intro other hother
      exact hbody other (List.mem_cons_of_mem item hother)

theorem onlyIf (hholds : Compositional holds) {condition : Bool} {script : Script Unit}
    (hscript : condition = true -> holds script) : holds (onlyIf condition script) := by
  cases condition with
  | false => exact hholds.done
  | true => exact hscript rfl

end Compositional

/-! ## Scripts that always come to their end -/

/-- A script that neither gives up nor flushes, whatever it is answered. -/
def Plain : Script α -> Prop
  | .done _ => True
  | .stop _ => False
  | .ask query next => ∀ answer : query.Answer, (next answer).Plain
  | .log _ next => next.Plain
  | .write _ next => next.Plain
  | .flush _ => False

theorem Plain.exists_outcome_eq_ok {script : Script α} (hplain : script.Plain)
    (source : Source State) (state : State) :
    ∃ result, (script.course source state).outcome = .ok result := by
  induction script generalizing state with
  | done result => exact ⟨result, rfl⟩
  | stop failure => exact hplain.elim
  | ask query rest ih => exact ih _ (hplain _) _
  | log record rest ih => exact ih hplain state
  | write text rest ih => exact ih hplain state
  | flush rest => exact hplain.elim

theorem Plain.outcome_eq_ok {script : Script Unit} (hplain : script.Plain)
    (source : Source State) (state : State) :
    (script.course source state).outcome = .ok () := by
  obtain ⟨_, hok⟩ := hplain.exists_outcome_eq_ok source state
  exact hok

theorem Plain.flushed_not_mem {script : Script α} (hplain : script.Plain)
    (source : Source State) (state : State) :
    Event.flushed ∉ (script.course source state).events := by
  induction script generalizing state with
  | done result => exact List.not_mem_nil
  | stop failure => exact hplain.elim
  | ask query rest ih => simpa [course] using ih _ (hplain _) _
  | log record rest ih => simpa [course] using ih hplain state
  | write text rest ih => simpa [course] using ih hplain state
  | flush rest => exact hplain.elim

theorem Plain.course_bind {script : Script Unit} (hplain : script.Plain) (source : Source State)
    (next : Unit -> Script β) (state : State) :
    (script.bind next).course source state =
      ⟨((next ()).course source (script.course source state).state).outcome,
        (script.course source state).events ++
          ((next ()).course source (script.course source state).state).events,
        ((next ()).course source (script.course source state).state).state⟩ := by
  rw [Script.course_bind]
  exact Course.andThen_of_ok (hplain.outcome_eq_ok source state) _

end Script

end DisplayInventory
