import DisplayInventory.CommandLine
import DisplayInventory.Proofs.Kernel.Nodes
import DisplayInventory.Proofs.Report.Lines

/-!
# How the program ends

The program ends in one of five ways, and its exit status and its output tell which.  It succeeds if
help was asked for or if a device opens and tells its lists, and in the latter case its last line
says so.  Nothing else that a device answers or refuses has a part in this.
-/

namespace DisplayInventory

namespace Kernel

/--
The node with everything replaced by that of another one, except its driver and whether it tells its
lists.
-/
def Node.withDetails (node details : Node) : Node :=
  { details with
    driver := node.driver
    driverFailure := node.driverFailure
    listingFailure := node.listingFailure }

def Device.withDetails (details : String -> Node) (device : Device) : Device :=
  ⟨device.path, device.node.withDetails (details device.path)⟩

namespace Host

def withDetails (details : String -> Node) (host : Host) : Host :=
  { host with
    nodes := host.nodes.map fun path opened =>
      opened.map fun node => node.withDetails (details path) }

theorem openMatching_withDetails (host : Host) (details : String -> Node)
    (device driver : Option String) :
    ((host.withDetails details).openMatching device driver).1 =
      (host.openMatching device driver).1.map (Device.withDetails details) := by
  have hdrivers : KeepsDrivers fun path node => node.withDetails (details path) :=
    fun _ _ => ⟨rfl, rfl⟩
  exact congrArg Prod.fst (host.openMatching_changeNodes hdrivers device driver)

end Host

end Kernel

namespace CommandLine

variable {host : Kernel.Host} {options : Options}

/-! ## The application -/

theorem application_of_failure {failure : Kernel.DeviceFailure}
    (hopen : (host.openMatching options.device options.driver).1 = .error failure) :
    (application host options).output = "Starting test\nFailed to open the card fd (" ++
        String.intercalate ": " failure.chain ++ ")\n" ∧
      succeeded (application host options).outcome = false := by
  unfold application
  cases hresult : host.openMatching options.device options.driver with
  | mk result records =>
      rw [hresult] at hopen
      cases hopen
      exact ⟨rfl, rfl⟩

theorem application_of_device {device : Kernel.Device}
    (hopen : (host.openMatching options.device options.driver).1 = .ok device) :
    (application host options).output = "Starting test\n" ++ (reportOn options device).output ∧
      (application host options).outcome = (reportOn options device).outcome := by
  unfold application
  cases hresult : host.openMatching options.device options.driver with
  | mk result records =>
      rw [hresult] at hopen
      cases hopen
      exact ⟨rfl, rfl⟩

theorem reportOn_of_listing (options : Options) {device : Kernel.Device} {listing : Resources}
    (hlisting : (device.node.answer (device.enableAspect {}).2 .resources).1 = .ok listing) :
    let report := (Report.script options).run device.source (device.enableAspect {}).2
      Sink.unlimited
    (reportOn options device).output = report.text ++ "Ok\n" ∧
      succeeded (reportOn options device).outcome = true ∧
      ∃ lines, report.text = Text.unlines (listing.headerLines ++ lines) := by
  intro report
  have hanswer : device.source.answer (device.enableAspect {}).2 .resources =
      (.ok listing, _) := Prod.ext hlisting rfl
  obtain ⟨houtcome, hlines⟩ := Report.run_of_listing options hanswer
  simp only [reportOn, houtcome]
  exact ⟨rfl, rfl, hlines⟩

theorem reportOn_of_refusal (options : Options) {device : Kernel.Device} {cause : IoError}
    (hrefusal : (device.node.answer (device.enableAspect {}).2 .resources).1 = .error cause) :
    (reportOn options device).output = "Failed to get resources from card\n" ∧
      succeeded (reportOn options device).outcome = false := by
  have hanswer : device.source.answer (device.enableAspect {}).2 .resources =
      (.error cause, _) := Prod.ext hrefusal rfl
  obtain ⟨houtcome, htext⟩ := Report.run_of_refusal options hanswer
  simp only [reportOn, houtcome]
  exact ⟨htext, rfl⟩

/-- Success depends on nothing but a device that opens and tells its lists. -/
theorem succeeded_application (host : Kernel.Host) (options : Options) :
    succeeded (application host options).outcome =
      match (host.openMatching options.device options.driver).1 with
      | .error _ => false
      | .ok device => device.node.listingFailure.isNone := by
  cases hopen : (host.openMatching options.device options.driver).1 with
  | error failure => exact (application_of_failure hopen).2
  | ok device =>
      rw [(application_of_device hopen).2]
      change _ = device.node.listingFailure.isNone
      cases hlists : device.node.listingFailure with
      | none =>
          have hlisting : (device.node.answer (device.enableAspect {}).2 .resources).1 =
              .ok device.node.listing := by
            simp [Kernel.Node.answer, hlists]
          exact (reportOn_of_listing options hlisting).2.1
      | some errno =>
          have hrefusal : (device.node.answer (device.enableAspect {}).2 .resources).1 =
              .error (.system errno) := by
            simp [Kernel.Node.answer, hlists]
          exact (reportOn_of_refusal options hrefusal).2

theorem succeeded_application_withDetails (host : Kernel.Host) (options : Options)
    (details : String -> Kernel.Node) :
    succeeded (application (host.withDetails details) options).outcome =
      succeeded (application host options).outcome := by
  rw [succeeded_application, succeeded_application, Kernel.Host.openMatching_withDetails]
  cases (host.openMatching options.device options.driver).1 <;> rfl

/-! ## The last line -/

def EndsIn (line text : String) : Prop :=
  ∃ lines, text = Text.unlines (lines ++ [line])

theorem endsIn_ok (lines : List String) : EndsIn "Ok" (Text.unlines lines ++ "Ok\n") := by
  refine ⟨lines, ?_⟩
  rw [Text.unlines_append]
  rfl

/-- A line that ends in another letter is not the line of a success. -/
theorem not_endsIn_ok (letter : Char) (hletter : letter ≠ 'k') (text : String) :
    ¬EndsIn "Ok" (text ++ String.ofList [letter, '\n']) := by
  rintro ⟨lines, hlines⟩
  have hlast := congrArg (fun text => text.toList.dropLast.getLast?) hlines
  rw [Text.unlines_append] at hlast
  simp [Text.unlines_cons] at hlast
  exact hletter hlast

theorem not_endsIn_empty : ¬EndsIn "Ok" "" := by
  rintro ⟨lines, hlines⟩
  have hlength := congrArg String.length hlines
  have hok : "Ok\n".length = 3 := rfl
  simp [Text.unlines_append, Text.unlines_cons, hok] at hlength

/-! ## The whole run -/

theorem run_of_outlet {arguments : List String} (hparse : Options.parse arguments = some options)
    {files : WorkingDirectory} {outlet : Option WorkingDirectory.Outlet}
    (houtlet : outletOf options files = .ok outlet) (host : Kernel.Host)
    (setting : Option String) :
    (run host arguments setting files).success = succeeded (application host options).outcome ∧
      (run host arguments setting files).output = (application host options).output := by
  simp only [run, hparse, houtlet]
  exact ⟨rfl, rfl⟩

theorem run_of_logFailure {arguments : List String}
    (hparse : Options.parse arguments = some options) {files : WorkingDirectory}
    {cause : IoError} (houtlet : outletOf options files = .error cause) (host : Kernel.Host)
    (setting : Option String) :
    (run host arguments setting files).success = false ∧
      (run host arguments setting files).output = "" := by
  simp [run, hparse, houtlet]

theorem run_of_help {arguments : List String} (hparse : Options.parse arguments = none)
    (host : Kernel.Host) (setting : Option String) (files : WorkingDirectory) :
    run host arguments setting files = ⟨true, helpText, "", files⟩ := by
  simp only [run, hparse]

/--
How a program ends whose log is open, by what the devices of the host tell: it tells why none was
opened, or that the lists can not be had, or it writes the report on the device, asked for aspect
ratios before, and closes it with a line of its own.
-/
def Ends (host : Kernel.Host) (options : Options) (success : Bool) (output : String) : Prop :=
  match (host.openMatching options.device options.driver).1 with
  | .error failure =>
      success = false ∧
        output = "Starting test\nFailed to open the card fd (" ++
          String.intercalate ": " failure.chain ++ ")\n"
  | .ok device =>
      let start := (device.enableAspect {}).2
      let report := (Report.script options).run device.source start Sink.unlimited
      match (device.node.answer start .resources).1 with
      | .error _ =>
          success = false ∧ output = "Starting test\nFailed to get resources from card\n"
      | .ok listing =>
          success = true ∧ output = "Starting test\n" ++ report.text ++ "Ok\n" ∧
            ∃ lines, report.text = Text.unlines
              (["Resources",
                "",
                "count_connectors : " ++ Text.decimal listing.connectors.length,
                "count_encoders   : " ++ Text.decimal listing.encoders.length,
                "count_crtcs      : " ++ Text.decimal listing.crtcs.length,
                "count_fbs        : " ++ Text.decimal listing.framebuffers.length,
                ""] ++ lines)

theorem application_ends (host : Kernel.Host) (options : Options) :
    Ends host options (succeeded (application host options).outcome)
      (application host options).output := by
  unfold Ends
  cases hopen : (host.openMatching options.device options.driver).1 with
  | error failure =>
      obtain ⟨houtput, hfailed⟩ := application_of_failure hopen
      exact ⟨hfailed, houtput⟩
  | ok device =>
      obtain ⟨houtput, houtcome⟩ := application_of_device hopen
      dsimp only
      cases hlisting : (device.node.answer (device.enableAspect {}).2 .resources).1 with
      | error cause =>
          obtain ⟨htext, hfailed⟩ := reportOn_of_refusal options hlisting
          refine ⟨?_, ?_⟩
          · rw [houtcome, hfailed]
          · rw [houtput, htext]
            rfl
      | ok listing =>
          obtain ⟨htext, hdone, hlines⟩ := reportOn_of_listing options hlisting
          refine ⟨?_, ?_, hlines⟩
          · rw [houtcome, hdone]
          · rw [houtput, htext, String.append_assoc]

theorem Ends.success_iff {success : Bool} {output : String}
    (hends : Ends host options success output) :
    success = true ↔ EndsIn "Ok" output := by
  unfold Ends at hends
  split at hends
  · obtain ⟨rfl, rfl⟩ := hends
    have hclosed := not_endsIn_ok ')' (by decide)
    exact ⟨nofun, fun hok => absurd hok (hclosed _)⟩
  · dsimp only at hends
    split at hends
    · obtain ⟨rfl, rfl⟩ := hends
      have hcard := not_endsIn_ok 'd' (by decide)
        "Starting test\nFailed to get resources from car"
      exact ⟨nofun, fun hok => absurd hok hcard⟩
    · obtain ⟨rfl, rfl, lines, hlines⟩ := hends
      have hstart : ∀ rest, "Starting test\n" ++ Text.unlines rest =
          Text.unlines ("Starting test" :: rest) := by
        intro rest
        rw [Text.unlines_cons]
        rfl
      rw [hlines, hstart]
      exact ⟨fun _ => endsIn_ok _, fun _ => rfl⟩

/--
What the exit status and the output of the program are on a host, for all arguments that are texts
of Unicode characters.  If help is asked for, it makes no difference what the host is.  The program
succeeds if and only if help was asked for or its last line says so, and whatever else is behind the
nodes of the host has no part in that.
-/
theorem run_ends (host : Kernel.Host) (arguments : List String) (setting : Option String)
    (files : WorkingDirectory) :
    let result := run host arguments setting files
    let help := Text.unlines
      ["Usage: kmsprint [OPTIONS]",
       "Options:",
       "  -fb                 Print framebuffers",
       "  -crtcs              Print CRTCs",
       "  -cons, -modes       Print connectors and their modes",
       "  -full               Print connectors and every mode timing",
       "  -props              Print connectors and their properties",
       "  -edids              Print connectors and their EDID",
       "  -encoders           Print encoders",
       "  -v                  Print everything",
       "  -current            Do not force a connector probe",
       "  -debug              Print modes in the compact debug style",
       "  -D, --device PATH   Open the given device node",
       "  -M, --module NAME   Open the first device driven by NAME",
       "  --log-file PATH     Append logs to PATH instead of stderr",
       "  -h, --help          Print this help message and exit"]
    (match Options.parse arguments with
      | none =>
          ∀ other : Kernel.Host, run other arguments setting files = ⟨true, help, "", files⟩
      | some options =>
          match outletOf options files with
          | .error _ => result.success = false ∧ result.output = ""
          | .ok _ => Ends host options result.success result.output) ∧
      (result.success = true ↔ Options.parse arguments = none ∨ EndsIn "Ok" result.output) ∧
      ∀ details : String -> Kernel.Node,
        (run (host.withDetails details) arguments setting files).success = result.success := by
  intro result help
  cases hparse : Options.parse arguments with
  | none =>
      have hhelp : ∀ other : Kernel.Host,
          run other arguments setting files = ⟨true, help, "", files⟩ :=
        fun other => run_of_help hparse other setting files
      refine ⟨hhelp, ?_, fun details => ?_⟩
      · simp [result, hhelp host]
      · rw [hhelp, show result = _ from hhelp host]
  | some options =>
      dsimp only
      cases houtlet : outletOf options files with
      | error cause =>
          have hfailed := fun host => run_of_logFailure hparse houtlet host setting
          refine ⟨hfailed host, ?_, fun details => ?_⟩
          · rw [show result.success = _ from (hfailed host).1,
              show result.output = _ from (hfailed host).2]
            simp [not_endsIn_empty]
          · rw [(hfailed _).1, show result.success = _ from (hfailed host).1]
      | ok outlet =>
          have hrun := fun host => run_of_outlet hparse houtlet host setting
          have hends : Ends host options result.success result.output := by
            rw [(hrun host).1, (hrun host).2]
            exact application_ends host options
          refine ⟨hends, ?_, fun details => ?_⟩
          · simpa using hends.success_iff
          · rw [(hrun _).1, (hrun _).1, succeeded_application_withDetails]

end CommandLine

end DisplayInventory
