import DisplayInventory.Options

/-!
# Reading the command line

Arguments are read from left to right.  An option that takes a value takes whatever argument
follows it, and at the very end of the line, where nothing follows, it counts as not understood.
A request for help ends the reading.  If no argument chooses a category, the standard ones are
shown.
-/

namespace DisplayInventory

inductive Choice where
  | framebuffers
  | crtcs
  | modes
  | fullModes
  | properties
  | edids
  | encoders
  | everything
  deriving DecidableEq

/-- Options that take the argument behind them as their value. -/
inductive Setting where
  | device
  | driver
  | logFile
  deriving DecidableEq

inductive Argument where
  | help
  | choice (choice : Choice)
  | current
  | debug
  | setting (setting : Setting)
  | unknown
  deriving DecidableEq

def Argument.ofText (text : String) : Argument :=
  match text with
  | "-h" | "--help" => .help
  | "-fb" => .choice .framebuffers
  | "-crtcs" => .choice .crtcs
  | "-cons" | "-modes" => .choice .modes
  | "-full" => .choice .fullModes
  | "-props" => .choice .properties
  | "-edids" => .choice .edids
  | "-encoders" => .choice .encoders
  | "-v" => .choice .everything
  | "-current" => .current
  | "-debug" => .debug
  | "-D" | "--device" => .setting .device
  | "-M" | "--module" => .setting .driver
  | "--log-file" => .setting .logFile
  | _ => .unknown

namespace Options

def choose (options : Options) : Choice -> Options
  | .framebuffers => { options with framebuffers := true }
  | .crtcs => { options with crtcs := true }
  | .modes => { options with connectors := true, modes := true }
  | .fullModes => { options with connectors := true, modes := true, fullModes := true }
  | .properties => { options with connectors := true, fullProps := true }
  | .edids => { options with connectors := true, edid := true }
  | .encoders => { options with encoders := true }
  | .everything => { options.withStandard with fullModes := true, fullProps := true }

def assign (options : Options) (setting : Setting) (value : String) : Options :=
  match setting with
  | .device => { options with device := some value }
  | .driver => { options with driver := some value }
  | .logFile => { options with logFile := some value }

def ignore (options : Options) (argument : String) : Options :=
  { options with ignored := options.ignored ++ [argument] }

/--
The options after the arguments that are left, given those read so far and whether a choice was
among them.  None is the answer to a request for help.
-/
def read (options : Options) (chosen : Bool) : List String -> Option Options
  | [] => some (if chosen then options else options.withStandard)
  | argument :: rest =>
      match Argument.ofText argument with
      | .help => none
      | .choice choice => (options.choose choice).read true rest
      | .current => { options with current := true }.read chosen rest
      | .debug => { options with debugModes := true }.read chosen rest
      | .unknown => (options.ignore argument).read chosen rest
      | .setting setting =>
          match rest with
          | [] => (options.ignore argument).read chosen []
          | value :: rest => (options.assign setting value).read chosen rest

/-- The options of a command line, whose first argument is the name of the program. -/
def parse (arguments : List String) : Option Options :=
  ({} : Options).read false (arguments.drop 1)

end Options

end DisplayInventory
