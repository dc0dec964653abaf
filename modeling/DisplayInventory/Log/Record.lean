import DisplayInventory.Text.Layout

/-!
# Log records

What happens beside the report is told in log records: how serious it is, which part of the
program tells it, and the message.
-/

namespace DisplayInventory

inductive Level where
  | error
  | warn
  | info
  | debug
  | trace
  deriving DecidableEq

namespace Level

/-- Position in the order of verbosity: the least serious level is the most verbose. -/
def verbosity : Level -> Nat
  | .error => 1
  | .warn => 2
  | .info => 3
  | .debug => 4
  | .trace => 5

def name : Level -> String
  | .error => "ERROR"
  | .warn => "WARN"
  | .info => "INFO"
  | .debug => "DEBUG"
  | .trace => "TRACE"

end Level

inductive LogTarget where
  /-- The command line program. -/
  | program
  /-- Discovery and opening of devices. -/
  | devices
  /-- The walk over the objects of a card. -/
  | report
  /-- The identification data of a connector. -/
  | edid
  /-- The properties of a connector. -/
  | property
  deriving DecidableEq

def LogTarget.path : LogTarget -> String
  | .program => "kmsprint"
  | .devices => "kmsprint_drm::device"
  | .report => "kmsprint_report"
  | .edid => "kmsprint_report::edid"
  | .property => "kmsprint_report::property"

structure Record where
  level : Level
  target : LogTarget
  message : String
  deriving DecidableEq

/-- A record as one line of a log, without the newline. -/
def Record.render (record : Record) : String :=
  "[" ++ Text.padRight 5 record.level.name ++ "] " ++ record.target.path ++ ": " ++
    record.message

end DisplayInventory
