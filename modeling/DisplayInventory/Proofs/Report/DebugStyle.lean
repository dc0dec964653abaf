import DisplayInventory.Card.Memory
import DisplayInventory.Proofs.Options.Groups
import DisplayInventory.Proofs.Report.Sections
import DisplayInventory.Proofs.Script.Lockstep

/-!
# The debug style

The debug style words some blocks of a report in another way and does nothing else.  These blocks
are the modes of a connector, the encoders and the controllers; which of them a report has is told
by the answers it gets.  With and without the debug style a report goes the same course in lockstep,
so this holds whichever questions fail.
-/

namespace DisplayInventory

/-- A block of a report that the debug style words in its own way. -/
inductive StyledBlock where
  /-- A mode of a connector, with the encoder of that and its position among the modes. -/
  | mode (encoderId : UInt32) (index : Nat) (mode : Mode)
  | encoder (id : UInt32) (encoder : Encoder)
  | crtc (id : UInt32) (crtc : Crtc)

def Mode.debugText (mode : Mode) (owner : String) : String :=
  "Mode: " ++ mode.name ++ " @ " ++ Text.decimal mode.vrefresh.toNat ++ " Hz, clock: " ++
    Decimal.showThousandths mode.clock.toNat ++ " Mhz, aspect: " ++
    Codes.aspectRatio (Codes.aspectRatioOf mode.flags) ++ " " ++ owner ++ "\n"

theorem Mode.debugText_eq (mode : Mode) (owner : ModeOwner) :
    mode.debugText owner.text = Text.unlines [mode.debugLine owner] := by
  rw [Text.unlines_cons, Text.unlines_nil, String.append_empty]
  rfl

namespace StyledBlock

def plain (full : Bool) : StyledBlock -> String
  | .mode _ _ shown => Text.unlines (if full then shown.fullLines else [shown.briefLine])
  | .encoder id shown => Text.unlines (shown.lines false id)
  | .crtc id shown => Text.unlines (shown.lines false id)

/--
The block in the debug style: one line in the place of a mode, one more line for an encoder, and one
more for a controller that has a mode.
-/
def debug : StyledBlock -> String
  | .mode encoderId index shown =>
      shown.debugText
        ("connector " ++ Text.decimal encoderId.toNat ++ " " ++
          Text.decimal (index % 0x100000000))
  | .encoder id shown =>
      Text.unlines (shown.lines false id) ++
        ("Encoder map: " ++ Text.decimal id.toNat ++ " to " ++ Text.decimal shown.crtcId.toNat ++
          "\n")
  | .crtc id shown =>
      Text.unlines (shown.lines false id) ++
        match shown.mode with
        | some active => active.debugText ("crtc " ++ Text.decimal id.toNat ++ " 0")
        | none => ""

def wording (options : Options) : StyledBlock -> String :=
  if options.debugModes then debug else plain options.fullModes

def ofModes (encoderId : UInt32) (index : Nat) (modes : List Mode) : List StyledBlock :=
  (modes.zipIdx index).map fun entry => .mode encoderId entry.2 entry.1

/-- The blocks that an answered question calls for. -/
def ofExchange (options : Options) : Exchange -> List StyledBlock
  | ⟨.connector _ _, .ok found⟩ =>
      if options.modes then ofModes found.encoderId 0 found.modes else []
  | ⟨.encoder id, .ok found⟩ => [.encoder id found]
  | ⟨.crtc id, .ok found⟩ => [.crtc id found]
  | _ => []

def plainStyle (full : Bool) : ModeStyle :=
  if full then .full else .brief

theorem plain_mode (full : Bool) (encoderId : UInt32) (index : Nat) (shown : Mode) :
    plain full (.mode encoderId index shown) =
      Text.unlines
        (shown.lines (plainStyle full) (.connector encoderId (UInt32.ofNat index))) := by
  cases full <;> rfl

theorem debug_mode (encoderId : UInt32) (index : Nat) (shown : Mode) :
    debug (.mode encoderId index shown) =
      Text.unlines (shown.lines .debug (.connector encoderId (UInt32.ofNat index))) :=
  shown.debugText_eq (.connector encoderId (UInt32.ofNat index))

theorem debug_encoder (id : UInt32) (shown : Encoder) :
    debug (.encoder id shown) = Text.unlines (shown.lines true id) := by
  have hlines : shown.lines true id = shown.lines false id ++
      ["Encoder map: " ++ Text.decimal id.toNat ++ " to " ++ Text.decimal shown.crtcId.toNat] := by
    simp [Encoder.lines]
  rw [hlines, Text.unlines_append, Text.unlines_cons, Text.unlines_nil, String.append_empty]
  rfl

theorem debug_crtc (id : UInt32) (shown : Crtc) :
    debug (.crtc id shown) = Text.unlines (shown.lines true id) := by
  cases hmode : shown.mode with
  | none =>
      have hlines : shown.lines true id = shown.lines false id := by
        simp [Crtc.lines, hmode]
      rw [hlines]
      simp [debug, hmode]
  | some active =>
      have hlines :
          shown.lines true id = shown.lines false id ++ [active.debugLine (.crtc id)] := by
        simp [Crtc.lines, hmode]
      have howner : active.debugText ("crtc " ++ Text.decimal id.toNat ++ " 0") =
          Text.unlines [active.debugLine (.crtc id)] :=
        active.debugText_eq (.crtc id)
      rw [hlines, Text.unlines_append, ← howner]
      simp only [debug, hmode]

/-- A wording that gives every mode its lines gives the modes of a connector theirs. -/
theorem worded_ofModes {wording : StyledBlock -> String} {style : ModeStyle}
    (hmode : ∀ encoderId index shown, wording (.mode encoderId index shown) =
      Text.unlines (shown.lines style (.connector encoderId (UInt32.ofNat index))))
    (encoderId : UInt32) (index : Nat) (modes : List Mode) :
    Piece.worded wording ((ofModes encoderId index modes).map .varied) =
      Text.unlines (Connector.modeLinesFrom style encoderId index modes) := by
  induction modes generalizing index with
  | nil => rfl
  | cons first rest ih =>
      have hrest := ih (index + 1)
      unfold ofModes at hrest ⊢
      rw [List.zipIdx_cons, List.map_cons, List.map_cons, Piece.worded_cons, hrest,
        Connector.modeLinesFrom, Text.unlines_append, Piece.text, hmode]

end StyledBlock

namespace Report

open StyledBlock

variable {options : Options}

abbrev Restyled {α : Type} (options : Options) (left : List StyledBlock)
    (script script' : Script α) : Prop :=
  Script.Lockstep (plain options.fullModes) debug (ofExchange options) left script script'

/-- The blocks of answers that are due are written at once. -/
theorem restyled_blocks (blocks : List StyledBlock) {next next' : Script Unit}
    (hnext : Restyled options [] next next') {text text' : String}
    (hplain : Piece.worded (plain options.fullModes) (blocks.map .varied) = text)
    (hdebug : Piece.worded debug (blocks.map .varied) = text') :
    Restyled options blocks (.write text next) (.write text' next') := by
  have hwrite := Script.Lockstep.write (blocks.map .varied) hnext
  rwa [hplain, hdebug, Piece.filterMap_block?_varied, List.append_nil] at hwrite

theorem restyled_details (options : Options) (connector : Connector) :
    Restyled options []
      ((Script.onlyIf options.edid (Edid.script connector)).bind fun _ =>
        Script.onlyIf options.fullProps connector.propertiesScript)
      ((Script.onlyIf options.edid (Edid.script connector)).bind fun _ =>
        Script.onlyIf options.fullProps connector.propertiesScript) := by
  apply Script.Lockstep.refl
  apply Script.Walks.asks
  apply Script.Walks.bind
  · exact Script.Walks.onlyIf fun _ => Edid.script_walks (fun _ _ _ => rfl) fun _ _ _ => rfl
  · intro _
    exact Script.Walks.onlyIf fun _ =>
      Connector.propertiesScript_walks (fun _ _ _ => rfl) fun _ _ _ => rfl

theorem restyled_modes (connector : Connector) {next next' : Script Unit}
    (hnext : Restyled options [] next next') :
    Restyled options
      (if options.modes then ofModes connector.encoderId 0 connector.modes else [])
      ((Script.onlyIf options.modes
        (Script.text (Text.unlines (connector.modeLines (plainStyle options.fullModes))))).bind
          fun _ => next)
      ((Script.onlyIf options.modes
        (Script.text (Text.unlines (connector.modeLines .debug)))).bind fun _ => next') := by
  cases options.modes with
  | false => exact hnext
  | true =>
      exact restyled_blocks _ hnext (worded_ofModes (plain_mode options.fullModes) _ _ _)
        (worded_ofModes debug_mode _ _ _)

theorem restyled_connector (id : UInt32) (connector : Connector) :
    Restyled options
      (if options.modes then ofModes connector.encoderId 0 connector.modes else [])
      (connector.script { options with debugModes := false } id)
      (connector.script { options with debugModes := true } id) := by
  have hwrite := Script.Lockstep.write [.fixed (Text.unlines (connector.summaryLines id))]
    (restyled_modes connector (restyled_details options connector))
  rw [Piece.worded_fixed, Piece.worded_fixed] at hwrite
  exact hwrite

theorem restyled_block (category : Category) (id : UInt32) :
    Restyled options [] (block { options with debugModes := false } category id)
      (block { options with debugModes := true } category id) := by
  have hmissing : ∀ cause, Restyled options [] (missing category.kind id cause)
      (missing category.kind id cause) := by
    intro cause
    apply Script.Lockstep.refl
    trivial
  cases category with
  | connectors =>
      refine .ask _ fun answer => ?_
      cases answer with
      | ok connector => exact restyled_connector id connector
      | error cause => exact hmissing cause
  | encoders =>
      refine .ask _ fun answer => ?_
      cases answer with
      | ok encoder =>
          exact restyled_blocks [.encoder id encoder] (.done ()) (Piece.worded_varied _ _)
            ((Piece.worded_varied _ _).trans (debug_encoder id encoder))
      | error cause => exact hmissing cause
  | crtcs =>
      refine .ask _ fun answer => ?_
      cases answer with
      | ok crtc =>
          exact restyled_blocks [.crtc id crtc] (.done ()) (Piece.worded_varied _ _)
            ((Piece.worded_varied _ _).trans (debug_crtc id crtc))
      | error cause => exact hmissing cause
  | framebuffers =>
      refine .ask _ fun answer => ?_
      cases answer with
      | ok framebuffer =>
          apply Script.Lockstep.refl
          trivial
      | error cause => exact hmissing cause

theorem restyled_part (listing : Resources) (category : Category) :
    Restyled options [] (part { options with debugModes := false } listing category)
      (part { options with debugModes := true } listing category) := by
  have hshows : ({ options with debugModes := true } : Options).shows category =
      ({ options with debugModes := false } : Options).shows category := by
    cases category <;> rfl
  unfold part
  rw [hshows]
  apply Script.Lockstep.onlyIf
  apply Script.Lockstep.bind
  · exact .each (restyled_block category) _
  · intro _
    apply Script.Lockstep.refl
    cases category <;> trivial

theorem restyled_script (options : Options) :
    Restyled options [] (script { options with debugModes := false })
      (script { options with debugModes := true }) := by
  refine .ask _ fun answer => ?_
  cases answer with
  | error cause =>
      have hrefusal : ∀ text failure,
          Restyled options [] (.write text (.stop failure) : Script Unit)
            (.write text (.stop failure)) := by
        intro text failure
        apply Script.Lockstep.refl
        trivial
      exact hrefusal _ _
  | ok listing =>
      have hbody : Restyled options [] (body { options with debugModes := false } listing)
          (body { options with debugModes := true } listing) := by
        rw [body_eq_parts, body_eq_parts]
        apply Script.Lockstep.bind
        · apply Script.Lockstep.refl
          trivial
        · exact fun _ => .each (restyled_part listing) _
      exact hbody.bind fun _ => .flush (.done ())

theorem run_script_restyled {State : Type} (options : Options) (source : Source State)
    (state : State) (sink : Sink) :
    let first := (script { options with debugModes := false }).run source state sink.unhindered
    let second := (script { options with debugModes := true }).run source state sink.unhindered
    second.outcome = first.outcome ∧ second.exchanges = first.exchanges ∧
      second.records = first.records ∧
      ∃ pieces : List (Piece StyledBlock),
        first.sink.bytes =
            sink.bytes ++ Text.Utf8.encode (Piece.worded (plain options.fullModes) pieces) ∧
          second.sink.bytes = sink.bytes ++ Text.Utf8.encode (Piece.worded debug pieces) ∧
          pieces.filterMap Piece.block? = first.exchanges.flatMap (ofExchange options) := by
  intro first second
  obtain ⟨houtcome, hexchanges, hrecords, hbytes⟩ :=
    Script.run_unhindered source (script { options with debugModes := false }) state sink
  obtain ⟨houtcome', hexchanges', hrecords', hbytes'⟩ :=
    Script.run_unhindered source (script { options with debugModes := true }) state sink
  obtain ⟨hsame, hasked, hnoted, pieces, hplain, hdebug, hblocks⟩ :=
    (restyled_script options).course_eq source state
  refine ⟨houtcome'.trans (hsame.trans houtcome.symm),
    hexchanges'.trans (hasked.trans hexchanges.symm),
    hrecords'.trans (hnoted.trans hrecords.symm), pieces, ?_, ?_, ?_⟩
  · rw [hbytes, hplain]
  · rw [hbytes', hdebug]
  · rw [hexchanges, hblocks]
    rfl

/--
An argument for the debug style, put wherever no option waits for its value, changes the wording of
the styled blocks and nothing else: no other option, no outcome, no question and no record.  The
styled blocks are those that the answers tell, in their order.
-/
theorem debug_restyles_blocks {State : Type} (program : String) {before : List String}
    (hclosed : ArgumentGroup.Closed before) (after : List String) (options : Options)
    (source : Source State) (state : State) (sink : Sink) :
    Options.parse (program :: (before ++ "-debug" :: after)) =
        ((Options.parse (program :: (before ++ after))).map fun parsed =>
          { parsed with debugModes := true }) ∧
      let first := (script options).run source state sink.unhindered
      let second := (script { options with debugModes := true }).run source state sink.unhindered
      second.outcome = first.outcome ∧ second.exchanges = first.exchanges ∧
        second.records = first.records ∧
        ∃ pieces : List (Piece StyledBlock),
          first.sink.bytes =
              sink.bytes ++ Text.Utf8.encode (Piece.worded (wording options) pieces) ∧
            second.sink.bytes = sink.bytes ++ Text.Utf8.encode (Piece.worded debug pieces) ∧
            pieces.filterMap Piece.block? = first.exchanges.flatMap (ofExchange options) := by
  refine ⟨Options.parse_insert_debug program hclosed after, ?_⟩
  obtain ⟨houtcome, hexchanges, hrecords, pieces, hplain, hdebug, hblocks⟩ :=
    run_script_restyled options source state sink
  unfold wording
  cases hstyle : options.debugModes with
  | false =>
      have hoptions : { options with debugModes := false } = options := by
        rw [← hstyle]
      rw [hoptions] at houtcome hexchanges hrecords hplain hblocks
      exact ⟨houtcome, hexchanges, hrecords, pieces, hplain, hdebug, hblocks⟩
  | true =>
      have hoptions : { options with debugModes := true } = options := by
        rw [← hstyle]
      rw [hoptions] at hexchanges hdebug ⊢
      rw [← hexchanges] at hblocks
      exact ⟨rfl, rfl, rfl, pieces, hdebug, hdebug, hblocks⟩

/--
The argument counts behind an option that took a request for help as its value.  Of the two listed
controllers one can not be had, and the other one has its mode told.
-/
theorem debug_behind_device :
    let active : Mode := { name := "1280x720", vrefresh := 60 }
    let shown : Crtc := { width := 1280, mode := some active }
    let card : Card :=
      { listing := { crtcs := [50, 51] }
        crtcs := Table.ofList [(50, .ok shown), (51, .ok shown)] }
    let options : Options := { crtcs := true, device := some "-h" }
    let source := card.source [(1, .general .timedOut)]
    let first := (script options).run source 0 Sink.unlimited.unhindered
    let second :=
      (script { options with debugModes := true }).run source 0 Sink.unlimited.unhindered
    ArgumentGroup.Closed ["-D", "-h"] ∧
      Options.parse ["kmsprint", "-D", "-h", "-debug", "-crtcs"] =
        some { options with debugModes := true } ∧
      second.exchanges = first.exchanges ∧ second.records = first.records ∧
      ∃ pieces : List (Piece StyledBlock),
        first.sink.bytes = Text.Utf8.encode (Piece.worded (plain false) pieces) ∧
          second.sink.bytes = Text.Utf8.encode (Piece.worded debug pieces) ∧
          pieces.filterMap Piece.block? = [.crtc 51 shown] := by
  intro active shown card options source first second
  have hclosed : ArgumentGroup.Closed ["-D", "-h"] := by
    simp [ArgumentGroup.Closed, ArgumentGroup.cut, show takesValue "-D" = true by decide]
  obtain ⟨hparse, -, hexchanges, hrecords, pieces, hplain, hdebug, hblocks⟩ :=
    debug_restyles_blocks "kmsprint" hclosed ["-crtcs"] options source 0 Sink.unlimited
  have hasked : first.exchanges = Event.exchanges ((script options).course source 0).events :=
    (Script.run_unhindered source (script options) 0 Sink.unlimited).2.1
  refine ⟨hclosed, hparse.trans (by decide), hexchanges, hrecords, pieces, hplain, hdebug, ?_⟩
  exact hblocks.trans (congrArg (List.flatMap (ofExchange options)) hasked)

/--
In the place of the name of the program the argument makes the name one that is not understood.
-/
theorem debug_in_place_of_name :
    ¬∃ style, Options.parse ["-debug", "kmsprint"] =
      (Options.parse ["kmsprint"]).map fun parsed => { parsed with debugModes := style } := by
  decide

end Report

end DisplayInventory
