import DisplayInventory.IoError

/-!
# Why a report does not come to its end

A report ends before its end if the ids can not be had or if its sink fails.  A write that is only
interrupted is made again, so a sink that interrupts every write holds the report up for ever.
-/

namespace DisplayInventory

inductive Failure where
  /-- The ids of the objects could not be had. -/
  | resources (cause : IoError)
  | write (cause : IoError)
  /-- The same write is made again and again, and the report neither ends nor goes on. -/
  | endless
  | flush (cause : IoError)
  deriving DecidableEq

namespace Failure

def chain : Failure -> List String
  | .resources cause => ["Failed to get resources from card", cause.message]
  | .write cause => [cause.message]
  | .endless => []
  | .flush cause => ["Failed to flush output", cause.message]

/-- What a write comes to that is refused and would be refused again. -/
def ofRefusal (cause : IoError) : Failure :=
  if cause.isInterruption then .endless else .write cause

theorem ofRefusal_cases (cause : IoError) :
    ofRefusal cause = .endless ∨ ofRefusal cause = .write cause := by
  unfold ofRefusal
  split
  · exact .inl rfl
  · exact .inr rfl

end Failure

end DisplayInventory
