import DisplayInventory.Card.Query
import DisplayInventory.Log.Record
import DisplayInventory.Report.Failure

/-!
# Scripts of a report

A report is described before it is carried out.  A script is a tree of steps: it asks a question
and continues with the answer, leaves a log record, writes text, or flushes what was written.  A
script knows nothing of where answers come from or text goes to, so whatever holds of all ways to
carry it out is proved once, by induction on the tree.
-/

namespace DisplayInventory

/-- A report that is still to be carried out, with a result of type `α`. -/
inductive Script (α : Type) where
  /-- Nothing is left to do. -/
  | done (result : α)
  /-- The report gives up. -/
  | stop (failure : Failure)
  /-- A question; the script continues with the answer. -/
  | ask (query : Query) (next : query.Answer -> Script α)
  /-- A log record. -/
  | log (record : Record) (next : Script α)
  /-- A piece of text. -/
  | write (text : String) (next : Script α)
  /-- Everything written so far has to arrive. -/
  | flush (next : Script α)

namespace Script

variable {α β : Type}

def bind (script : Script α) (next : α -> Script β) : Script β :=
  match script with
  | .done result => next result
  | .stop failure => .stop failure
  | .ask query rest => .ask query fun answer => (rest answer).bind next
  | .log record rest => .log record (rest.bind next)
  | .write text rest => .write text (rest.bind next)
  | .flush rest => .flush (rest.bind next)

instance : Monad Script where
  pure := .done
  bind := .bind

@[simp] theorem pure_eq_done (result : α) : (pure result : Script α) = .done result := rfl

@[simp] theorem bind_eq (script : Script α) (next : α -> Script β) :
    (script >>= next) = script.bind next := rfl

theorem bind_done (script : Script α) : script.bind .done = script := by
  induction script with
  | done result => rfl
  | stop failure => rfl
  | ask query rest ih => simp [bind, ih]
  | log record rest ih => simp [bind, ih]
  | write text rest ih => simp [bind, ih]
  | flush rest ih => simp [bind, ih]

def query (query : Query) : Script query.Answer :=
  .ask query .done

def note (record : Record) : Script Unit :=
  .log record (.done ())

def text (text : String) : Script Unit :=
  .write text (.done ())

def line (line : String) : Script Unit :=
  .write (line ++ "\n") (.done ())

/-- A request that everything written arrives. -/
def settle : Script Unit :=
  .flush (.done ())

def each {ι : Type} (body : ι -> Script Unit) : List ι -> Script Unit
  | [] => .done ()
  | item :: rest => (body item).bind fun _ => each body rest

def onlyIf (condition : Bool) (script : Script Unit) : Script Unit :=
  if condition then script else .done ()

end Script

end DisplayInventory
