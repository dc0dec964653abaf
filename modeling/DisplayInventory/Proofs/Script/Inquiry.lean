import DisplayInventory.Proofs.Script.Delivery

/-!
# What a script asks

A script asks permitted questions if every question in its tree is permitted that can be reached by
possible answers; it walks if besides it always comes to its end.  Two sources that agree on the
permitted questions can not be told apart by such a script: it is enough that they agree question by
question and keep a relation between their states.
-/

namespace DisplayInventory.Script

variable {α β ι : Type}

/-- Whether a script asks permitted questions only, as long as the answers are possible ones. -/
def Asks (possible : (query : Query) -> query.Answer -> Prop) (permitted : Query -> Prop) :
    Script α -> Prop
  | .done _ => True
  | .stop _ => True
  | .ask query next =>
      permitted query ∧ ∀ answer, possible query answer -> (next answer).Asks possible permitted
  | .log _ next => next.Asks possible permitted
  | .write _ next => next.Asks possible permitted
  | .flush next => next.Asks possible permitted

section Asks

variable {possible : (query : Query) -> query.Answer -> Prop} {permitted : Query -> Prop}

theorem Asks.bind {script : Script α} {next : α -> Script β}
    (hscript : script.Asks possible permitted)
    (hnext : ∀ result, (next result).Asks possible permitted) :
    (script.bind next).Asks possible permitted := by
  induction script with
  | done result => exact hnext result
  | stop failure => trivial
  | ask query rest ih =>
      exact ⟨hscript.1, fun answer hanswer => ih answer (hscript.2 answer hanswer)⟩
  | log record rest ih => exact ih hscript
  | write text rest ih => exact ih hscript
  | flush rest ih => exact ih hscript

/-- Whether a script neither gives up nor flushes, and asks permitted questions only. -/
def Walks (possible : (query : Query) -> query.Answer -> Prop) (permitted : Query -> Prop) :
    Script α -> Prop
  | .done _ => True
  | .stop _ => False
  | .ask query next =>
      permitted query ∧ ∀ answer, possible query answer -> (next answer).Walks possible permitted
  | .log _ next => next.Walks possible permitted
  | .write _ next => next.Walks possible permitted
  | .flush _ => False

theorem Walks.bind {script : Script α} {next : α -> Script β}
    (hscript : script.Walks possible permitted)
    (hnext : ∀ result, (next result).Walks possible permitted) :
    (script.bind next).Walks possible permitted := by
  induction script with
  | done result => exact hnext result
  | stop failure => exact hscript.elim
  | ask query rest ih =>
      exact ⟨hscript.1, fun answer hanswer => ih answer (hscript.2 answer hanswer)⟩
  | log record rest ih => exact ih hscript
  | write text rest ih => exact ih hscript
  | flush rest => exact hscript.elim

theorem Walks.compositional :
    Compositional fun script => script.Walks possible permitted :=
  ⟨trivial, fun hfirst hsecond => hfirst.bind fun _ => hsecond⟩

theorem Walks.each {body : ι -> Script Unit} {items : List ι}
    (hbody : ∀ item ∈ items, (body item).Walks possible permitted) :
    (each body items).Walks possible permitted :=
  compositional.each hbody

theorem Walks.onlyIf {condition : Bool} {script : Script Unit}
    (hscript : condition = true -> script.Walks possible permitted) :
    (onlyIf condition script).Walks possible permitted :=
  compositional.onlyIf hscript

theorem Walks.asks {script : Script α} (hwalks : script.Walks possible permitted) :
    script.Asks possible permitted := by
  induction script with
  | done result => trivial
  | stop failure => trivial
  | ask query rest ih => exact ⟨hwalks.1, fun answer hanswer => ih answer (hwalks.2 answer hanswer)⟩
  | log record rest ih => exact ih hwalks
  | write text rest ih => exact ih hwalks
  | flush rest => exact hwalks.elim

theorem Walks.plain {script : Script α} (hwalks : script.Walks (fun _ _ => True) permitted) :
    script.Plain := by
  induction script with
  | done result => trivial
  | stop failure => exact hwalks.elim
  | ask query rest ih => exact fun answer => ih answer (hwalks.2 answer trivial)
  | log record rest ih => exact ih hwalks
  | write text rest ih => exact ih hwalks
  | flush rest => exact hwalks.elim

end Asks

theorem Asks.permitted_of_mem {State : Type} {possible : (query : Query) -> query.Answer -> Prop}
    {permitted : Query -> Prop} {source : Source State}
    (hpossible : ∀ state query, possible query (source.answer state query).1)
    {script : Script α} (hasks : script.Asks possible permitted) (state : State)
    {exchange : Exchange}
    (hmem : exchange ∈ Event.exchanges (script.course source state).events) :
    permitted exchange.query := by
  induction script generalizing state with
  | done result => exact absurd hmem List.not_mem_nil
  | stop failure => exact absurd hmem List.not_mem_nil
  | ask query next ih =>
      obtain rfl | hlater := List.mem_cons.mp hmem
      · exact hasks.1
      · exact ih _ (hasks.2 _ (hpossible state query)) _ hlater
  | log record next ih => exact ih hasks state hmem
  | write text next ih => exact ih hasks state hmem
  | flush next ih => exact ih hasks state hmem

/-- Whatever a sink makes of its course, a script asks permitted questions only. -/
theorem Asks.permitted_of_mem_queries {State : Type}
    {possible : (query : Query) -> query.Answer -> Prop} {permitted : Query -> Prop}
    {source : Source State}
    (hpossible : ∀ state query, possible query (source.answer state query).1)
    {script : Script α} (hasks : script.Asks possible permitted) (state : State) (sink : Sink)
    {query : Query} (hmem : query ∈ (script.run source state sink).queries) : permitted query := by
  obtain ⟨exchange, hexchange, rfl⟩ := List.mem_map.mp hmem
  rw [(run_delivers source script state sink).2.1] at hexchange
  have hattempted := sink.attempted_prefix (script.course source state).events
  have hcourse : exchange ∈ Event.exchanges (script.course source state).events :=
    (hattempted.sublist.filterMap Event.exchange?).subset hexchange
  exact hasks.permitted_of_mem hpossible state hcourse

/-- A script that may ask nothing has no questions, whatever a sink makes of it. -/
theorem Asks.queries_eq_nil {State : Type} {script : Script α}
    (hasks : script.Asks (fun _ _ => True) fun _ => False) (source : Source State) (state : State)
    (sink : Sink) : (script.run source state sink).queries = [] := by
  rw [List.eq_nil_iff_forall_not_mem]
  intro query hquery
  exact hasks.permitted_of_mem_queries (fun _ _ => trivial) state sink hquery

theorem asks_anything (script : Script α) : script.Asks (fun _ _ => True) fun _ => True := by
  induction script with
  | done result => trivial
  | stop failure => trivial
  | ask query next ih => exact ⟨trivial, fun answer _ => ih answer⟩
  | log record next ih => exact ih
  | write text next ih => exact ih
  | flush next ih => exact ih

section Upkeep

variable {State : Type} {possible : (query : Query) -> query.Answer -> Prop}
  {permitted : Query -> Prop} {source : Source State}

/--
What every permitted question keeps of the state of a source, a run keeps; and what every such
question has of its answer, all exchanges of the run have.
-/
theorem Asks.run_keeps {keeps : State -> Prop} {good : Exchange -> Prop}
    (hstep : ∀ state query, keeps state -> permitted query ->
      possible query (source.answer state query).1 ∧
        good ⟨query, (source.answer state query).1⟩ ∧ keeps (source.answer state query).2)
    {script : Script α} (hasks : script.Asks possible permitted) {state : State}
    (hkeeps : keeps state) (sink : Sink) :
    keeps (script.run source state sink).state ∧
      ∀ exchange ∈ (script.run source state sink).exchanges, good exchange := by
  induction script generalizing state sink with
  | done result => exact ⟨hkeeps, fun exchange hmem => absurd hmem List.not_mem_nil⟩
  | stop failure => exact ⟨hkeeps, fun exchange hmem => absurd hmem List.not_mem_nil⟩
  | ask query next ih =>
      obtain ⟨hpossible, hgood, hafter⟩ := hstep state query hkeeps hasks.1
      obtain ⟨hlast, hlater⟩ := ih _ (hasks.2 _ hpossible) hafter sink
      refine ⟨hlast, fun exchange hmem => ?_⟩
      rcases List.mem_cons.mp hmem with rfl | hrest
      · exact hgood
      · exact hlater exchange hrest
  | log record next ih => exact ih hasks hkeeps sink
  | write text next ih =>
      simp only [run]
      cases hwrite : sink.write text with
      | mk failure sink' =>
          cases failure with
          | some cause => exact ⟨hkeeps, fun exchange hmem => absurd hmem List.not_mem_nil⟩
          | none => exact ih hasks hkeeps sink'
  | flush next ih =>
      simp only [run]
      cases hflush : sink.flushFailure with
      | some cause => exact ⟨hkeeps, fun exchange hmem => absurd hmem List.not_mem_nil⟩
      | none => exact ih hasks hkeeps sink

theorem Asks.keeps_run {keeps : State -> Prop}
    (hstep : ∀ state query, keeps state -> permitted query ->
      possible query (source.answer state query).1 ∧ keeps (source.answer state query).2)
    {script : Script α} (hasks : script.Asks possible permitted) {state : State}
    (hkeeps : keeps state) (sink : Sink) : keeps (script.run source state sink).state := by
  have hrun : keeps (script.run source state sink).state ∧
      ∀ exchange ∈ (script.run source state sink).exchanges, True :=
    hasks.run_keeps (fun state query hkept hpermitted =>
      ⟨(hstep state query hkept hpermitted).1, trivial, (hstep state query hkept hpermitted).2⟩)
      hkeeps sink
  exact hrun.1

theorem keeps_run {keeps : State -> Prop}
    (hstep : ∀ state query, keeps state -> keeps (source.answer state query).2)
    (script : Script α) {state : State} (hkeeps : keeps state) (sink : Sink) :
    keeps (script.run source state sink).state :=
  script.asks_anything.keeps_run
    (fun state query hkept _ => ⟨trivial, hstep state query hkept⟩) hkeeps sink

/--
A mark that every question leaves, and that no later one takes away, stays to the end of a run.
-/
theorem run_marks {mark : Exchange -> State -> Prop}
    (hmark : ∀ state query,
      mark ⟨query, (source.answer state query).1⟩ (source.answer state query).2)
    (hkeep : ∀ exchange state query, mark exchange state ->
      mark exchange (source.answer state query).2)
    (script : Script α) (state : State) (sink : Sink) :
    ∀ exchange ∈ (script.run source state sink).exchanges,
      mark exchange (script.run source state sink).state := by
  induction script generalizing state sink with
  | done result => exact fun exchange hmem => absurd hmem List.not_mem_nil
  | stop failure => exact fun exchange hmem => absurd hmem List.not_mem_nil
  | ask query next ih =>
      intro exchange hmem
      rcases List.mem_cons.mp hmem with rfl | hlater
      · exact (next _).keeps_run (hkeep _) (hmark state query) sink
      · exact ih _ _ sink exchange hlater
  | log record next ih => exact ih state sink
  | write text next ih =>
      simp only [run]
      cases hwrite : sink.write text with
      | mk failure sink' =>
          cases failure with
          | some cause => exact fun exchange hmem => absurd hmem List.not_mem_nil
          | none => exact ih state sink'
  | flush next ih =>
      simp only [run]
      cases hflush : sink.flushFailure with
      | some cause => exact fun exchange hmem => absurd hmem List.not_mem_nil
      | none => exact ih state sink

end Upkeep

section Agreement

variable {First Second : Type}

/--
Two sources agree on permitted questions: in related states they give the same answer, which is a
possible one, and go on to related states.
-/
def Agree (possible : (query : Query) -> query.Answer -> Prop) (permitted : Query -> Prop)
    (related : First -> Second -> Prop) (source : Source First) (other : Source Second) : Prop :=
  ∀ state state' query, related state state' -> permitted query ->
    (source.answer state query).1 = (other.answer state' query).1 ∧
      possible query (source.answer state query).1 ∧
      related (source.answer state query).2 (other.answer state' query).2

variable {possible : (query : Query) -> query.Answer -> Prop} {permitted : Query -> Prop}
  {related : First -> Second -> Prop} {source : Source First} {other : Source Second}

/-- Two sources that agree on what a script asks can not be told apart by it. -/
theorem Asks.seen_run_eq (hagree : Agree possible permitted related source other)
    {script : Script α} (hasks : script.Asks possible permitted) {state : First}
    {state' : Second} (hrelated : related state state') (sink : Sink) :
    (script.run source state sink).seen = (script.run other state' sink).seen ∧
      related (script.run source state sink).state (script.run other state' sink).state := by
  induction script generalizing state state' sink with
  | done result => exact ⟨rfl, hrelated⟩
  | stop failure => exact ⟨rfl, hrelated⟩
  | ask query next ih =>
      obtain ⟨hanswer, hpossible, hlater⟩ := hagree state state' query hrelated hasks.1
      obtain ⟨hseen, hlast⟩ := ih _ (hasks.2 _ hpossible) hlater sink
      simp only [run]
      rw [← hanswer]
      exact ⟨congrArg (Run.afterExchange ⟨query, (source.answer state query).1⟩) hseen, hlast⟩
  | log record next ih =>
      obtain ⟨hseen, hlast⟩ := ih hasks hrelated sink
      exact ⟨congrArg (Run.afterRecord record) hseen, hlast⟩
  | write text next ih =>
      simp only [run]
      cases hwrite : sink.write text with
      | mk failure sink' =>
          cases failure with
          | some cause => exact ⟨rfl, hrelated⟩
          | none => exact ih hasks hrelated sink'
  | flush next ih =>
      simp only [run]
      cases hflush : sink.flushFailure with
      | some cause => exact ⟨rfl, hrelated⟩
      | none => exact ih hasks hrelated sink

theorem Asks.map_seen_runs_eq (hagree : Agree possible permitted related source other)
    {script : Script α} (hasks : script.Asks possible permitted) (times : Nat) {state : First}
    {state' : Second} (hrelated : related state state') (sink : Sink) :
    (script.runs source times state sink).map Run.seen =
      (script.runs other times state' sink).map Run.seen := by
  induction times generalizing state state' sink with
  | zero => rfl
  | succ times ih =>
      obtain ⟨hseen, hlast⟩ := hasks.seen_run_eq hagree hrelated sink
      have hsink : (script.run source state sink).sink = (script.run other state' sink).sink :=
        congrArg (fun run : Run Unit α => run.sink) hseen
      have hendless : (script.run source state sink).isEndless =
          (script.run other state' sink).isEndless :=
        congrArg (fun run : Run Unit α => run.isEndless) hseen
      simp only [runs, List.map_cons, hseen, hendless]
      split
      · rfl
      · rw [ih hlast (script.run source state sink).sink, hsink]

end Agreement

/-- Two sources that give the same answers to what is asked in a run give the same run. -/
theorem run_eq_of_queries {State : Type} {source other : Source State} {script : Script α}
    {state : State} {sink : Sink}
    (hsame : ∀ query ∈ (script.run source state sink).queries, ∀ state,
      other.answer state query = source.answer state query) :
    script.run other state sink = script.run source state sink := by
  induction script generalizing state sink with
  | done result => rfl
  | stop failure => rfl
  | ask query next ih =>
      have hfirst : other.answer state query = source.answer state query :=
        hsame query List.mem_cons_self state
      simp only [run, hfirst]
      rw [ih _ fun later hlater => hsame later (List.mem_cons_of_mem query hlater)]
  | log record next ih => exact congrArg (Run.afterRecord record) (ih hsame)
  | write text next ih =>
      simp only [run] at hsame ⊢
      cases hwrite : sink.write text with
      | mk failure sink' =>
          cases failure with
          | some cause => rfl
          | none =>
              rw [hwrite] at hsame
              exact ih hsame
  | flush next ih =>
      simp only [run] at hsame ⊢
      cases hflush : sink.flushFailure with
      | some cause => rfl
      | none =>
          rw [hflush] at hsame
          exact ih hsame

end DisplayInventory.Script
