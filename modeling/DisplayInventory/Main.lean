import DisplayInventory.CommandLine

/-!
# Entry point

The outermost layer: it takes the arguments and the log setting from the surroundings, runs the
program, and passes on what the program writes.  The library has no way to the kernel of the machine
it runs on, so the machine is described to it as a host, and the one described here has no devices.
-/

namespace DisplayInventory

/-- The machine as it is described to the program. -/
def localHost : Kernel.Host := {}

def causeOf (failure : IO.Error) : IoError :=
  match failure with
  | .noFileOrDirectory _ code _ | .invalidArgument _ code _ | .permissionDenied _ code _
  | .inappropriateType _ code _ | .resourceExhausted _ code _ => .system code.toNat
  | failure => .custom (toString failure)

/-- Opens the log file for appending, or tells why it can not be opened. -/
def openLog (path : String) : IO (Except IoError IO.FS.Handle) := do
  try
    return .ok (<- IO.FS.Handle.mk path IO.FS.Mode.append)
  catch failure =>
    return .error (causeOf failure)

def close (outcome : Except ProgramFailure Unit) : IO UInt32 := do
  IO.eprint (CommandLine.closingText outcome)
  return if CommandLine.succeeded outcome then 0 else 1

def runWith (options : Options) (setting : Option String) : IO UInt32 := do
  let (filter, objections) := CommandLine.filterOf setting
  IO.eprint (CommandLine.warningText objections)
  let transcript := CommandLine.transcript localHost options
  let log := CommandLine.logText filter transcript.records
  match options.logFile with
  | none =>
      IO.print transcript.output
      IO.eprint log
      close transcript.outcome
  | some path =>
      match <- openLog path with
      | .error cause => close (.error (.logFile cause))
      | .ok file =>
          IO.print transcript.output
          file.putStr log
          close transcript.outcome

end DisplayInventory

def main (arguments : List String) : IO UInt32 := do
  match DisplayInventory.Options.parse ("kmsprint" :: arguments) with
  | none =>
      IO.print DisplayInventory.helpText
      return 0
  | some options =>
      DisplayInventory.runWith options (<- IO.getEnv "RUST_LOG")
