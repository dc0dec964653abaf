import DisplayInventory.Proofs.Report.Enumeration
import DisplayInventory.Proofs.Text.Utf8

/-!
# A report is made of lines

Whatever a report writes at once is a number of whole lines, so its text never ends within one, and
what is written behind it begins a line of its own.
-/

namespace DisplayInventory

def Text.IsLines (text : String) : Prop :=
  ∃ lines, text = Text.unlines lines

theorem Text.isLines_unlines (lines : List String) : Text.IsLines (Text.unlines lines) :=
  ⟨lines, rfl⟩

theorem Text.isLines_line (line : String) : Text.IsLines (line ++ "\n") := by
  refine ⟨[line], ?_⟩
  rw [unlines_cons, unlines_nil, String.append_empty]

theorem Text.IsLines.append {first second : String} (hfirst : Text.IsLines first)
    (hsecond : Text.IsLines second) : Text.IsLines (first ++ second) := by
  obtain ⟨lines, rfl⟩ := hfirst
  obtain ⟨more, rfl⟩ := hsecond
  exact ⟨lines ++ more, (Text.unlines_append lines more).symm⟩

namespace Script

variable {State α β : Type}

/-- Whether everything that a script writes at once is a number of whole lines. -/
def WritesLines : Script α -> Prop
  | .done _ => True
  | .stop _ => True
  | .ask query next => ∀ answer : query.Answer, (next answer).WritesLines
  | .log _ next => next.WritesLines
  | .write text next => Text.IsLines text ∧ next.WritesLines
  | .flush next => next.WritesLines

namespace WritesLines

theorem bind {script : Script α} {next : α -> Script β} (hscript : script.WritesLines)
    (hnext : ∀ result, (next result).WritesLines) : (script.bind next).WritesLines := by
  induction script with
  | done result => exact hnext result
  | stop failure => trivial
  | ask query rest ih => exact fun answer => ih answer (hscript answer)
  | log record rest ih => exact ih hscript
  | write text rest ih => exact ⟨hscript.1, ih hscript.2⟩
  | flush rest ih => exact ih hscript

theorem compositional : Compositional WritesLines :=
  ⟨trivial, fun hfirst hsecond => hfirst.bind fun _ => hsecond⟩

theorem written_course {script : Script α} (hscript : script.WritesLines)
    (source : Source State) (state : State) :
    Text.IsLines (Event.written (script.course source state).events) := by
  induction script generalizing state with
  | done result => exact Text.isLines_unlines []
  | stop failure => exact Text.isLines_unlines []
  | ask query rest ih => simpa [course] using ih _ (hscript _) _
  | log record rest ih => simpa [course] using ih hscript state
  | write text rest ih => simpa [course] using hscript.1.append (ih hscript.2 state)
  | flush rest ih => simpa [course] using ih hscript state

end WritesLines

/-- What is written to a sink that keeps everything can be read there. -/
theorem text_run_unlimited (source : Source State) (script : Script α) (state : State) :
    (script.run source state Sink.unlimited).text =
      Event.written (script.course source state).events := by
  rw [Run.text, (run_unlimited source script state).2.2.2.1, Text.Utf8.decode_encode]

end Script

/-! ## The sections -/

theorem Edid.findProperty_writesLines (props : List UInt32) :
    (findProperty props).WritesLines := by
  induction props with
  | nil => trivial
  | cons id rest ih =>
      intro answer
      cases answer with
      | error cause => exact ih
      | ok property =>
          dsimp only
          split
          · trivial
          · exact ih

theorem Edid.dump_writesLines (id : UInt64) (bytes : List UInt8) :
    (dump id bytes).WritesLines := by
  have htext : (Script.text (Text.unlines ((read bytes).lines ++ rowLines bytes))).WritesLines :=
    ⟨Text.isLines_unlines _, trivial⟩
  unfold dump
  cases (read bytes).notice? id bytes with
  | none => exact ⟨Text.isLines_line _, htext⟩
  | some record => exact ⟨Text.isLines_line _, htext⟩

theorem Edid.script_writesLines (connector : Connector) : (script connector).WritesLines := by
  refine (findProperty_writesLines connector.props).bind fun property => ?_
  cases blobId? connector property with
  | none => trivial
  | some id =>
      intro answer
      cases answer with
      | ok bytes => exact dump_writesLines id bytes
      | error cause => exact ⟨Text.isLines_line _, trivial⟩

theorem Property.script_writesLines (property : Property) (value : UInt64) :
    (property.script value).WritesLines := by
  unfold Property.script
  split
  · refine ⟨Text.isLines_unlines _, fun answer => ?_⟩
    cases answer with
    | ok bytes => exact ⟨Text.isLines_line _, trivial⟩
    | error cause => exact ⟨Text.isLines_line _, trivial⟩
  · exact ⟨Text.isLines_unlines _, Text.isLines_unlines _, trivial⟩

theorem Connector.propertiesScript_writesLines (connector : Connector) :
    connector.propertiesScript.WritesLines := by
  refine Script.WritesLines.compositional.each fun entry _ => ?_
  intro answer
  cases answer with
  | ok property => exact property.script_writesLines _
  | error cause => trivial

theorem Connector.script_writesLines (options : Options) (id : UInt32) (connector : Connector) :
    (connector.script options id).WritesLines := by
  have hlines := Script.WritesLines.compositional
  have hsummary : (Script.text (Text.unlines (connector.summaryLines id))).WritesLines :=
    ⟨Text.isLines_unlines _, trivial⟩
  have hmodes : (Script.onlyIf options.modes (Script.text (Text.unlines
      (connector.modeLines options.modeStyle)))).WritesLines :=
    hlines.onlyIf fun _ => ⟨Text.isLines_unlines _, trivial⟩
  have hedid : (Script.onlyIf options.edid (Edid.script connector)).WritesLines :=
    hlines.onlyIf fun _ => Edid.script_writesLines connector
  have hproperties : (Script.onlyIf options.fullProps connector.propertiesScript).WritesLines :=
    hlines.onlyIf fun _ => connector.propertiesScript_writesLines
  exact hlines.bind hsummary (hlines.bind hmodes (hlines.bind hedid hproperties))

namespace Report

theorem block_writesLines (options : Options) (category : Category) (id : UInt32) :
    (block options category id).WritesLines := by
  cases category with
  | connectors =>
      intro answer
      cases answer with
      | ok connector => exact connector.script_writesLines options id
      | error cause => exact ⟨Text.isLines_line _, trivial⟩
  | encoders | crtcs | framebuffers =>
      intro answer
      cases answer with
      | ok object => exact ⟨Text.isLines_unlines _, trivial⟩
      | error cause => exact ⟨Text.isLines_line _, trivial⟩

theorem written_body {State : Type} (source : Source State) (options : Options)
    (listing : Resources) (state : State) :
    ∃ lines, Event.written ((body options listing).course source state).events =
      Text.unlines (listing.headerLines ++ lines) := by
  have hparts : (Script.each (part options listing) Category.all).WritesLines :=
    parts_of_blocks Script.WritesLines.compositional ⟨Text.isLines_line "", trivial⟩
      fun category id _ => block_writesLines options category id
  obtain ⟨lines, hlines⟩ := hparts.written_course source state
  refine ⟨lines, ?_⟩
  rw [body_eq_parts, Text.unlines_append, ← hlines]
  exact Event.written_wrote_cons _ _

variable {State : Type} {source : Source State} {state after : State}

/-- Over a card that tells its lists a report comes to its end; the header is above the rest. -/
theorem run_of_listing (options : Options) {listing : Resources}
    (hlisting : source.answer state .resources = (.ok listing, after)) :
    let run := (script options).run source state Sink.unlimited
    run.outcome = .ok () ∧ ∃ lines, run.text = Text.unlines (listing.headerLines ++ lines) := by
  intro run
  have hcourse : (script options).course source state = _ := course_script_of_ok hlisting
  obtain ⟨lines, hlines⟩ := written_body source options listing after
  refine ⟨?_, lines, ?_⟩
  · rw [(Script.run_unlimited source (script options) state).1, hcourse]
  · rw [Script.text_run_unlimited, hcourse, ← hlines]
    simp

/-- Without the lists a report is one line that they can not be had. -/
theorem run_of_refusal (options : Options) {cause : IoError}
    (hrefusal : source.answer state .resources = (.error cause, after)) :
    let run := (script options).run source state Sink.unlimited
    run.outcome = .error (.resources cause) ∧
      run.text = "Failed to get resources from card\n" := by
  intro run
  have hcourse : (script options).course source state = _ := course_script_of_error hrefusal
  refine ⟨?_, ?_⟩
  · rw [(Script.run_unlimited source (script options) state).1, hcourse]
  · rw [Script.text_run_unlimited, hcourse]
    simp

end Report

end DisplayInventory
