import DisplayInventory.Proofs.Script.Inquiry

/-!
# Scripts that differ in what is probed

A question for a connector says whether it has to be probed.  Two scripts may differ in this alone,
along the whole tree.  Over a source that gives the same answer either way such scripts can not be
told apart but by these questions themselves.
-/

namespace DisplayInventory

def Exchange.unforced : Exchange -> Exchange
  | ⟨.connector id _, answer⟩ => ⟨.connector id false, answer⟩
  | exchange => exchange

/-- What can be seen of a run, but for which connectors had to be probed. -/
def Run.regardless {State α : Type} (run : Run State α) : Run Unit α :=
  { run.seen with exchanges := run.exchanges.map Exchange.unforced }

namespace Script

variable {State α β ι : Type}

/-- Two scripts that differ in nothing but whether connectors have to be probed. -/
inductive Reforced : Script α -> Script α -> Prop where
  | done (result : α) : Reforced (.done result) (.done result)
  | stop (failure : Failure) : Reforced (.stop failure) (.stop failure)
  | ask (query : Query) {next next' : query.Answer -> Script α}
      (hnext : ∀ answer, Reforced (next answer) (next' answer)) :
      Reforced (.ask query next) (.ask query next')
  | connector (id : UInt32) (force force' : Bool)
      {next next' : Except IoError Connector -> Script α}
      (hnext : ∀ answer, Reforced (next answer) (next' answer)) :
      Reforced (.ask (.connector id force) next) (.ask (.connector id force') next')
  | log (record : Record) {next next' : Script α} (hnext : Reforced next next') :
      Reforced (.log record next) (.log record next')
  | write (text : String) {next next' : Script α} (hnext : Reforced next next') :
      Reforced (.write text next) (.write text next')
  | flush {next next' : Script α} (hnext : Reforced next next') :
      Reforced (.flush next) (.flush next')

namespace Reforced

theorem refl (script : Script α) : Reforced script script := by
  induction script with
  | done result => exact .done result
  | stop failure => exact .stop failure
  | ask query next ih => exact .ask query ih
  | log record next ih => exact .log record ih
  | write text next ih => exact .write text ih
  | flush next ih => exact .flush ih

theorem bind {script script' : Script α} {next next' : α -> Script β}
    (hscript : Reforced script script') (hnext : ∀ result, Reforced (next result) (next' result)) :
    Reforced (script.bind next) (script'.bind next') := by
  induction hscript with
  | done result => exact hnext result
  | stop failure => exact .stop failure
  | ask query _ ih => exact .ask query ih
  | connector id force force' _ ih => exact .connector id force force' ih
  | log record _ ih => exact .log record ih
  | write text _ ih => exact .write text ih
  | flush _ ih => exact .flush ih

theorem each {body body' : ι -> Script Unit} (hbody : ∀ item, Reforced (body item) (body' item))
    (items : List ι) : Reforced (each body items) (each body' items) := by
  induction items with
  | nil => exact .done ()
  | cons item rest ih => exact (hbody item).bind fun _ => ih

theorem onlyIf (condition : Bool) {script script' : Script Unit}
    (hscript : Reforced script script') :
    Reforced (onlyIf condition script) (onlyIf condition script') := by
  cases condition with
  | false => exact .done ()
  | true => exact hscript

variable {possible : (query : Query) -> query.Answer -> Prop} {permitted : Query -> Prop}
  {related : State -> State -> Prop} {source : Source State}

/--
Such scripts can not be told apart where it makes no difference whether connectors are probed.
-/
theorem regardless_run_eq (hagree : Agree possible permitted related source source)
    (hforce : ∀ state state' id force force', related state state' ->
      permitted (.connector id force) ->
        (source.answer state (.connector id force)).1 =
            (source.answer state' (.connector id force')).1 ∧
          possible (.connector id force) (source.answer state (.connector id force)).1 ∧
          related (source.answer state (.connector id force)).2
            (source.answer state' (.connector id force')).2)
    {script script' : Script α} (hscript : Reforced script script')
    (hasks : script.Asks possible permitted) {state state' : State}
    (hrelated : related state state') (sink : Sink) :
    (script.run source state sink).regardless = (script'.run source state' sink).regardless := by
  induction hscript generalizing state state' sink with
  | done result => rfl
  | stop failure => rfl
  | ask query _ ih =>
      obtain ⟨hanswer, hpossible, hlater⟩ := hagree state state' query hrelated hasks.1
      have hrest := ih _ (hasks.2 _ hpossible) hlater sink
      simp only [run]
      rw [← hanswer]
      exact congrArg (Run.afterExchange (Exchange.unforced ⟨query, _⟩)) hrest
  | connector id force force' _ ih =>
      obtain ⟨hanswer, hpossible, hlater⟩ :=
        hforce state state' id force force' hrelated hasks.1
      have hrest := ih _ (hasks.2 _ hpossible) hlater sink
      simp only [run]
      rw [← hanswer]
      exact congrArg (Run.afterExchange ⟨.connector id false, _⟩) hrest
  | log record _ ih => exact congrArg (Run.afterRecord record) (ih hasks hrelated sink)
  | write text _ ih =>
      simp only [run]
      cases hwrite : sink.write text with
      | mk failure sink' =>
          cases failure with
          | some cause => rfl
          | none => exact ih hasks hrelated sink'
  | flush _ ih =>
      simp only [run]
      cases hflush : sink.flushFailure with
      | some cause => rfl
      | none => exact ih hasks hrelated sink

end Reforced

end Script

end DisplayInventory
