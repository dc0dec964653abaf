import DisplayInventory.Card.Memory
import DisplayInventory.Proofs.Script.Inquiry
import DisplayInventory.Text.Layout

/-!
# Scripts with fixed answers

Where the answers depend on nothing but the question, a source needs no state, and a script that
comes to its end tells the same each time: it asks the same questions and writes the same lines.
What it tells is put together from what its parts tell.
-/

namespace DisplayInventory

namespace Source

def fixed (answers : (query : Query) -> query.Answer) : Source Unit where
  answer _ query := (answers query, ())

def Steady {State : Type} (source : Source State) (answers : (query : Query) -> query.Answer) :
    Prop :=
  ∀ state query, (source.answer state query).1 = answers query

end Source

theorem Card.steady_source (card : Card) : (card.source []).Steady card.answer :=
  fun _ _ => rfl

namespace Script

variable {State α β ι : Type} {answers : (query : Query) -> query.Answer}

/-- A source whose answers are fixed can not be told from one without a state. -/
theorem seen_run_of_steady {source : Source State} (hsteady : source.Steady answers)
    (script : Script α) (state : State) (sink : Sink) :
    (script.run source state sink).seen = script.run (.fixed answers) () sink := by
  have hagree : Agree (fun _ _ => True) (fun _ => True) (fun _ _ => True) source
      (.fixed answers) :=
    fun state _ query _ _ => ⟨hsteady state query, trivial, trivial⟩
  exact (script.asks_anything.seen_run_eq hagree trivial sink).1

/-- A question after which nothing is asked is the only one. -/
theorem queries_run_query {query : Query} {next : query.Answer -> Script α}
    (hnext : ∀ answer, (next answer).Asks (fun _ _ => True) fun _ => False)
    (source : Source State) (state : State) (sink : Sink) :
    (((Script.query query).bind next).run source state sink).queries = [query] := by
  have hlater := (hnext (source.answer state query).1).queries_eq_nil source
    (source.answer state query).2 sink
  exact congrArg (query :: ·) hlater

/--
What a script comes to, asks and writes where the answers are fixed and nothing fails to be written.
-/
structure Tells (answers : (query : Query) -> query.Answer) (script : Script α) (result : α)
    (queries : List Query) (lines : List String) : Prop where
  outcome : (script.run (.fixed answers) () Sink.unlimited).outcome = .ok result
  asked : (script.run (.fixed answers) () Sink.unlimited).queries = queries
  written : (script.run (.fixed answers) () Sink.unlimited).sink.bytes =
    Text.Utf8.encode (Text.unlines lines)

namespace Tells

section

variable {script : Script α} {result : α} {queries queries' : List Query}
  {lines lines' : List String}

/-- A script tells the same on every source with these answers, behind any text in the sink. -/
theorem run (htells : script.Tells answers result queries lines) {source : Source State}
    (hsteady : source.Steady answers) (state : State) (sink : Sink) :
    (script.run source state sink.unhindered).outcome = .ok result ∧
      (script.run source state sink.unhindered).queries = queries ∧
      (script.run source state sink.unhindered).sink.bytes =
        sink.bytes ++ Text.Utf8.encode (Text.unlines lines) := by
  have hseen := seen_run_of_steady hsteady script state sink.unhindered
  obtain ⟨houtcome, hexchanges, -, hbytes⟩ := run_unhindered (.fixed answers) script () sink
  obtain ⟨houtcome', hexchanges', -, hbytes', -⟩ := run_unlimited (.fixed answers) script ()
  have hasked := htells.asked
  have hwritten := htells.written
  rw [Run.queries, hexchanges', ← hexchanges] at hasked
  rw [hbytes'] at hwritten
  refine ⟨?_, ?_, ?_⟩
  · have hok := congrArg (fun run : Run Unit α => run.outcome) hseen
    exact hok.trans (houtcome.trans (houtcome'.symm.trans htells.outcome))
  · exact (congrArg Run.queries hseen).trans hasked
  · have hsink := congrArg (fun run : Run Unit α => run.sink.bytes) hseen
    exact hsink.trans (hbytes.trans (congrArg (sink.bytes ++ ·) hwritten))

theorem done (result : α) : (Script.done result).Tells answers result [] [] :=
  ⟨rfl, rfl, rfl⟩

theorem query {query : Query} {next : query.Answer -> Script α}
    (hnext : (next (answers query)).Tells answers result queries lines) :
    ((Script.query query).bind next).Tells answers result (query :: queries) lines :=
  ⟨hnext.outcome, congrArg (query :: ·) hnext.asked, hnext.written⟩

theorem bind {next : α -> Script β} {result' : β}
    (hfirst : script.Tells answers result queries lines)
    (hnext : (next result).Tells answers result' queries' lines') :
    (script.bind next).Tells answers result' (queries ++ queries') (lines ++ lines') := by
  obtain ⟨houtcome, hexchanges, -, hbytes, -⟩ := run_unlimited (.fixed answers) script ()
  obtain ⟨houtcome', hexchanges', -, hbytes', -⟩ := run_unlimited (.fixed answers) (next result) ()
  obtain ⟨houtcome'', hexchanges'', -, hbytes'', -⟩ :=
    run_unlimited (.fixed answers) (script.bind next) ()
  have hok := houtcome.symm.trans hfirst.outcome
  rw [course_bind, Course.andThen_of_ok hok] at houtcome'' hexchanges'' hbytes''
  refine ⟨?_, ?_, ?_⟩
  · rw [houtcome'', ← houtcome', hnext.outcome]
  · rw [Run.queries, hexchanges'', Event.exchanges_append, List.map_append, ← hexchanges,
      ← hexchanges', ← hfirst.asked, ← hnext.asked, Run.queries, Run.queries]
  · rw [hbytes'', Event.written_append, Text.Utf8.encode_append, ← hbytes, ← hbytes',
      hfirst.written, hnext.written, Text.unlines_append, Text.Utf8.encode_append]

end

theorem note (record : Record) : (Script.note record).Tells answers () [] [] :=
  ⟨rfl, rfl, rfl⟩

theorem text (lines : List String) :
    (Script.text (Text.unlines lines)).Tells answers () [] lines := by
  obtain ⟨houtcome, hexchanges, -, hbytes, -⟩ :=
    run_unlimited (.fixed answers) (Script.text (Text.unlines lines)) ()
  refine ⟨houtcome, congrArg (List.map Exchange.query) hexchanges, hbytes.trans ?_⟩
  rw [Script.text, course, Course.events_after, Event.written_wrote_cons]
  exact congrArg Text.Utf8.encode String.append_empty

theorem line (line : String) : (Script.line line).Tells answers () [] [line] := by
  have hline : Script.line line = Script.text (Text.unlines [line]) := by
    rw [Script.line, Script.text, Text.unlines_cons, Text.unlines_nil, String.append_empty]
  rw [hline]
  exact text [line]

theorem each {body : ι -> Script Unit} {queries : ι -> List Query} {lines : ι -> List String}
    (hbody : ∀ item, (body item).Tells answers () (queries item) (lines item)) (items : List ι) :
    (Script.each body items).Tells answers () (items.flatMap queries) (items.flatMap lines) := by
  induction items with
  | nil => exact done ()
  | cons item rest ih => exact (hbody item).bind ih

theorem onlyIf {script : Script Unit} {queries : List Query} {lines : List String}
    (condition : Bool) (hscript : script.Tells answers () queries lines) :
    (Script.onlyIf condition script).Tells answers () (if condition then queries else [])
      (if condition then lines else []) := by
  cases condition with
  | false => exact done ()
  | true => exact hscript

end Tells

end Script

end DisplayInventory
