import DisplayInventory.Log.Record
import DisplayInventory.Pattern
import DisplayInventory.Text.Blank

/-!
# Choosing log records

A filter has a threshold for every record and may set others for the records of some targets.
The most specific setting decides: the longest target name that begins the name of the record's
target.  A threshold admits the records that are no more verbose than it.  Besides, a filter may ask
for a pattern in the messages.

A filter is written as a list of settings separated by commas.  A level alone sets the general
threshold, `target=level` sets one target, and a target alone admits all of its records.  A slash
behind the settings separates them from the pattern.  What can not be understood is left out and
objected to.
-/

namespace DisplayInventory

/-- The least serious level admitted; none admits no record at all. -/
abbrev Threshold := Option Level

namespace Threshold

def everything : Threshold :=
  some .trace

def admits (threshold : Threshold) (level : Level) : Bool :=
  match threshold with
  | none => false
  | some least => level.verbosity <= least.verbosity

def ofText? (text : String) : Option Threshold :=
  match text.toList.map Char.toLower with
  | ['o', 'f', 'f'] => some none
  | ['e', 'r', 'r', 'o', 'r'] => some (some .error)
  | ['w', 'a', 'r', 'n'] => some (some .warn)
  | ['i', 'n', 'f', 'o'] => some (some .info)
  | ['d', 'e', 'b', 'u', 'g'] => some (some .debug)
  | ['t', 'r', 'a', 'c', 'e'] => some (some .trace)
  | _ => none

end Threshold

structure Filter where
  /-- Decides where no target setting does. -/
  general : Threshold
  /-- Settings for targets whose names begin with a text; a text occurs at most once. -/
  targets : List (String × Threshold)
  /-- What has to occur in a message. -/
  pattern : Option Pattern := none
  deriving DecidableEq

namespace Filter

/-- The filter in force when nothing is set: warnings and errors pass. -/
def standard : Filter :=
  { general := some .warn, targets := [] }

def withTarget (filter : Filter) (target : String) (threshold : Threshold) : Filter :=
  { filter with
    targets := filter.targets.filter (fun setting => setting.1 != target) ++
      [(target, threshold)] }

def covers (target : String) (record : Record) : Bool :=
  target.toList.isPrefixOf record.target.path.toList

/--
The setting with the longest target among those that cover the record, or the fallback.  A
later setting takes the place of an earlier one only if its target is longer.
-/
def mostSpecific (record : Record) :
    List (String × Threshold) -> Option (String × Threshold) -> Option (String × Threshold)
  | [], found => found
  | setting :: rest, found =>
      if covers setting.1 record then
        match found with
        | none => mostSpecific record rest (some setting)
        | some best =>
            if best.1.length < setting.1.length then mostSpecific record rest (some setting)
            else mostSpecific record rest (some best)
      else mostSpecific record rest found

def thresholdFor (filter : Filter) (record : Record) : Threshold :=
  match mostSpecific record filter.targets none with
  | some setting => setting.2
  | none => filter.general

def admits (filter : Filter) (record : Record) : Bool :=
  (filter.thresholdFor record).admits record.level &&
    filter.pattern.all (·.occursIn record.message)

/-- Why a part of a written filter is left out. -/
inductive Objection where
  /-- There is more than one slash; nothing of the filter is understood. -/
  | slashes (text : String)
  /-- A setting has more than one equality sign. -/
  | setting (text : String)
  /-- A setting gives no level to its target. -/
  | level (text : String)
  /-- The pattern is refused. -/
  | pattern (refusal : Pattern.Refusal)
  deriving DecidableEq

def Objection.warning (objection : Objection) : String :=
  let cause :=
    match objection with
    | .slashes text => "invalid logging spec '" ++ text ++ "' (too many '/'s)"
    | .setting text => "invalid logging spec '" ++ text ++ "'"
    | .level text => "invalid logging spec '" ++ text ++ "'"
    | .pattern refusal => "invalid regex filter - " ++ refusal.message
  "warning: " ++ cause ++ ", ignoring it"

def set (filter : Filter) (written : String) : Except Objection Filter :=
  let setting := Text.trim written
  if setting.isEmpty then .ok filter
  else
    match setting.splitOn "=" with
    | [target] =>
        match Threshold.ofText? target with
        | some threshold => .ok { filter with general := threshold }
        | none => .ok (filter.withTarget target Threshold.everything)
    | [target, value] =>
        let level := Text.trim value
        if level.isEmpty then .ok (filter.withTarget target Threshold.everything)
        else
          match Threshold.ofText? level with
          | some threshold => .ok (filter.withTarget target threshold)
          | none => .error (.level level)
    | _ => .error (.setting setting)

/-- The filter changed by written settings in order, and the objections to some of them. -/
def setAll (filter : Filter) : List String -> Filter × List Objection
  | [] => (filter, [])
  | setting :: rest =>
      match filter.set setting with
      | .ok changed => changed.setAll rest
      | .error objection =>
          let (changed, objections) := filter.setAll rest
          (changed, objection :: objections)

def withPattern (filter : Filter) (text : String) : Filter × List Objection :=
  match Pattern.ofText text with
  | .ok pattern => ({ filter with pattern := some pattern }, [])
  | .error refusal => (filter, [.pattern refusal])

/-- The filter written by `text`, over the standard one, and the objections to parts of it. -/
def ofText (text : String) : Filter × List Objection :=
  match text.splitOn "/" with
  | [settings] => standard.setAll (settings.splitOn ",")
  | [settings, pattern] =>
      let (filter, objections) := standard.setAll (settings.splitOn ",")
      let (filter, more) := filter.withPattern pattern
      (filter, objections ++ more)
  | _ => (standard, [.slashes text])

end Filter

end DisplayInventory
