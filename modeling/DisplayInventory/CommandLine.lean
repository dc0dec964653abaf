import DisplayInventory.Kernel.Discovery
import DisplayInventory.Log.Filter
import DisplayInventory.Options.Help
import DisplayInventory.Options.Parse
import DisplayInventory.Report.Inventory
import DisplayInventory.Report.Run
import DisplayInventory.Text.Visible
import DisplayInventory.WorkingDirectory

/-!
# The command line program

The program reads its options, opens a device, asks it for aspect ratios and writes the report to
the standard output, between a line that it starts and a line that it is done.  It fails when no
device opens, when the lists of ids are withheld, or when the log file can not be opened; whatever
else goes wrong is told in the report or in the log.
-/

namespace DisplayInventory

inductive ProgramFailure where
  | logFile (cause : IoError)
  | device (failure : Kernel.DeviceFailure)
  | report (failure : Failure)
  deriving DecidableEq

namespace ProgramFailure

def chain : ProgramFailure -> List String
  | .logFile cause => ["Failed to open log file", cause.message]
  | .device failure => failure.chain
  | .report failure => failure.chain

def closingLines (failure : ProgramFailure) : List String :=
  match failure.chain with
  | [] => []
  | [outermost] => ["Error: " ++ outermost]
  | outermost :: causes =>
      ["Error: " ++ outermost, "", "Caused by:"] ++ causes.map fun cause => "    " ++ cause

end ProgramFailure

namespace CommandLine

/-- What the program does between reading its options and ending. -/
structure Transcript where
  /-- The text on the standard output. -/
  output : String
  /-- The log, before it is filtered. -/
  records : List Record
  outcome : Except ProgramFailure Unit

def ignoredRecord (argument : String) : Record :=
  ⟨.warn, .program, "Ignoring argument " ++ argument⟩

def aspectRecords : Except IoError Unit -> List Record
  | .ok _ => []
  | .error cause =>
      [⟨.debug, .program, "Unable to enable aspect ratio reporting: " ++ cause.message⟩]

def failureRecords : Except ProgramFailure Unit -> List Record
  | .ok _ => []
  | .error failure =>
      [⟨.error, .program, "An error occurred: " ++ joinCauses failure.chain⟩]

def reportOn (options : Options) (device : Kernel.Device) : Transcript :=
  let (enabled, state) := device.enableAspect {}
  let run := (Report.script options).run device.source state Sink.unlimited
  { output :=
      match run.outcome with
      | .ok _ => run.text ++ "Ok\n"
      | .error _ => run.text
    records :=
      (⟨.debug, .program, "Using DRM device " ++ device.path⟩ :: aspectRecords enabled) ++
        run.records
    outcome :=
      match run.outcome with
      | .ok _ => .ok ()
      | .error failure => .error (.report failure) }

def application (host : Kernel.Host) (options : Options) : Transcript :=
  match host.openMatching options.device options.driver with
  | (.error failure, records) =>
      { output := "Starting test\nFailed to open the card fd (" ++ failure.message ++ ")\n"
        records
        outcome := .error (.device failure) }
  | (.ok device, records) =>
      let report := reportOn options device
      { report with
        output := "Starting test\n" ++ report.output
        records := records ++ report.records }

def transcript (host : Kernel.Host) (options : Options) : Transcript :=
  let inner := application host options
  { inner with
    records :=
      options.ignored.map ignoredRecord ++ inner.records ++ failureRecords inner.outcome }

/-- The log as it is written: a line for every record that passes, without control sequences; one
that the message does not end takes the end of the line with it. -/
def logText (filter : Filter) (records : List Record) : String :=
  String.join ((records.filter filter.admits).map fun record =>
    Text.visible (record.render ++ "\n"))

def closingText : Except ProgramFailure Unit -> String
  | .ok _ => ""
  | .error failure => Text.unlines failure.closingLines

def filterOf (setting : Option String) : Filter × List Filter.Objection :=
  match setting with
  | some text => Filter.ofText text
  | none => (Filter.standard, [])

def warningText (objections : List Filter.Objection) : String :=
  Text.unlines (objections.map Filter.Objection.warning)

structure Result where
  success : Bool
  output : String
  errors : String
  files : WorkingDirectory

def succeeded : Except ProgramFailure Unit -> Bool
  | .ok _ => true
  | .error _ => false

/-- What can be seen of a run whose log is kept in a place; none stands for the error output. -/
def settle (transcript : Transcript) (log warnings : String) (files : WorkingDirectory)
    (outlet : Option WorkingDirectory.Outlet) : Result :=
  let (shown, kept) :=
    match outlet with
    | none | some .errorOutput => (log, files)
    | some (.file name) => ("", files.append name log)
    | some .elsewhere => ("", files)
  { success := succeeded transcript.outcome
    output := transcript.output
    errors := warnings ++ shown ++ closingText transcript.outcome
    files := kept }

def outletOf (options : Options) (files : WorkingDirectory) :
    Except IoError (Option WorkingDirectory.Outlet) :=
  match options.logFile with
  | none => .ok none
  | some path => (files.outletAt path).map some

/-- Runs the program on a host, with its arguments, log setting and working directory. -/
def run (host : Kernel.Host) (arguments : List String) (setting : Option String)
    (files : WorkingDirectory) : Result :=
  match Options.parse arguments with
  | none => ⟨true, helpText, "", files⟩
  | some options =>
      let (filter, objections) := filterOf setting
      let warnings := warningText objections
      match outletOf options files with
      | .error cause => ⟨false, "", warnings ++ closingText (.error (.logFile cause)), files⟩
      | .ok outlet =>
          let transcript := transcript host options
          settle transcript (logText filter transcript.records) warnings files outlet

end CommandLine

end DisplayInventory
