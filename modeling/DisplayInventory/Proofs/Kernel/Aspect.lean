import DisplayInventory.Proofs.Kernel.Nodes
import DisplayInventory.Proofs.Kernel.Session
import DisplayInventory.Proofs.Report.DebugStyle
import DisplayInventory.Proofs.Report.LimitedSink

/-!
# Aspect ratios

A device reports the picture aspect ratios of modes from the first request for them on that is
granted.  Before, it reports as a device would that has none to report and that was granted the
request.  The invariant of the comparison is that the two devices have probed the same connectors:
whether aspect ratios are reported is then all that their states can differ in.
-/

namespace DisplayInventory.Kernel

/-! ## A host without aspect ratios -/

def RawMode.withoutAspect (mode : RawMode) : RawMode :=
  { mode with flags := Kernel.withoutAspect mode.flags }

def RawConnector.withoutAspect (connector : RawConnector) : RawConnector :=
  { connector with modes := connector.modes.map RawMode.withoutAspect }

def ConnectorStates.withoutAspect (states : ConnectorStates) : ConnectorStates :=
  ⟨states.probed.withoutAspect, states.lastKnown.withoutAspect⟩

def RawCrtc.withoutAspect (crtc : RawCrtc) : RawCrtc :=
  { crtc with mode := crtc.mode.withoutAspect }

/--
The node with no aspect ratio in the flags of any mode, and with the request for them granted.
-/
def Node.withoutAspect (node : Node) : Node :=
  { node with
    aspectFailure := none
    connectors := node.connectors.map fun _ held => held.map ConnectorStates.withoutAspect
    crtcs := node.crtcs.map fun _ held => held.map RawCrtc.withoutAspect }

def Device.withoutAspect (device : Device) : Device :=
  ⟨device.path, device.node.withoutAspect⟩

def Host.withoutAspect (host : Host) : Host :=
  host.changeNodes fun _ => Node.withoutAspect

theorem Host.openMatching_withoutAspect (host : Host) (chosen driver : Option String) :
    host.withoutAspect.openMatching chosen driver =
      ((host.openMatching chosen driver).1.map Device.withoutAspect,
        (host.openMatching chosen driver).2) := by
  have hdrivers : KeepsDrivers fun _ => Node.withoutAspect := fun _ _ => ⟨rfl, rfl⟩
  exact host.openMatching_changeNodes hdrivers chosen driver

/-! ## The flags of a mode -/

theorem withoutAspect_withoutAspect (flags : UInt32) :
    withoutAspect (withoutAspect flags) = withoutAspect flags := by
  unfold withoutAspect
  rw [UInt32.and_assoc, UInt32.and_self]

theorem aspectRatioOf_withoutAspect (flags : UInt32) :
    Codes.aspectRatioOf (withoutAspect flags) = 0 := by
  have hmasks : (0xFF87FFFF : UInt32) &&& Codes.aspectMask = 0 := by decide
  rw [Codes.aspectRatioOf, withoutAspect, UInt32.and_assoc, hmasks, UInt32.and_zero]
  rfl

theorem RawMode.snapshot_withoutAspect (aspect : Bool) (mode : RawMode) :
    mode.withoutAspect.snapshot aspect = mode.snapshot false := by
  cases aspect with
  | true => rfl
  | false => simp [snapshot, withoutAspect, withoutAspect_withoutAspect]

theorem RawConnector.snapshot_withoutAspect (aspect : Bool) (connector : RawConnector) :
    connector.withoutAspect.snapshot aspect = connector.snapshot false := by
  have hmodes : (connector.modes.map RawMode.withoutAspect).map (RawMode.snapshot aspect) =
      connector.modes.map (RawMode.snapshot false) := by
    rw [List.map_map]
    exact List.map_congr_left fun mode _ => mode.snapshot_withoutAspect aspect
  simp only [snapshot, withoutAspect, hmodes]

theorem RawCrtc.snapshot_withoutAspect (aspect : Bool) (crtc : RawCrtc) :
    crtc.withoutAspect.snapshot aspect = crtc.snapshot false := by
  have hmode : crtc.withoutAspect.activeMode aspect = crtc.activeMode false := by
    simp only [activeMode, withoutAspect, RawMode.snapshot_withoutAspect]
  simp only [snapshot, hmode]
  rfl

theorem RawCrtc.exists_of_mem_mode {aspect : Bool} {crtc : RawCrtc} {active : Mode}
    (hactive : (crtc.snapshot aspect).mode = some active) :
    ∃ mode : RawMode, active = mode.snapshot aspect := by
  simp only [snapshot, activeMode] at hactive
  split at hactive
  · exact absurd hactive (by simp)
  · exact ⟨crtc.mode, (Option.some.inj hactive).symm⟩

/-- A mode told without its aspect ratio is told to have none. -/
theorem RawMode.debugText_snapshot (mode : RawMode) (owner : String) :
    (mode.snapshot false).debugText owner =
      "Mode: " ++ (mode.snapshot false).name ++ " @ " ++
        Text.decimal (mode.snapshot false).vrefresh.toNat ++ " Hz, clock: " ++
        Decimal.showThousandths (mode.snapshot false).clock.toNat ++ " Mhz, aspect: n/a " ++
        owner ++ "\n" := by
  have hratio : Codes.aspectRatio (Codes.aspectRatioOf (mode.snapshot false).flags) = "n/a" := by
    rw [show (mode.snapshot false).flags = Kernel.withoutAspect mode.flags from rfl,
      aspectRatioOf_withoutAspect]
    rfl
  rw [Mode.debugText, hratio]
  simp [String.append_assoc]

/-! ## Answers with and without aspect ratios -/

def ConnectorStates.state (states : ConnectorStates) (probed : Bool) : RawConnector :=
  if probed then states.probed else states.lastKnown

namespace Node

variable (node : Node)

/-- Whether connectors and controllers are told as they are held, with or without aspect ratios. -/
def Tells (aspect : Bool) : Exchange -> Prop
  | ⟨.connector id _, answer⟩ =>
      ∃ probed, answer =
        (fetch node.connectors id).map fun states => (states.state probed).snapshot aspect
  | ⟨.crtc id, answer⟩ => answer = (fetch node.crtcs id).map (RawCrtc.snapshot aspect)
  | _ => True

theorem tells_connector (state : DeviceState) (id : UInt32) (force : Bool) :
    node.Tells state.aspect ⟨.connector id force, (node.connector state id force).1⟩ := by
  unfold Tells
  rw [connector_eq_map]
  cases hfetch : fetch node.connectors id with
  | error cause => exact ⟨true, by rw [hfetch]; rfl⟩
  | ok states =>
      by_cases hprobed : force ∨ states.lastKnown.modes = [] ∨ id ∈ state.probed
      · refine ⟨true, ?_⟩
        simp [Except.map, DeviceState.answered, ConnectorStates.state, hprobed, hfetch]
      · refine ⟨false, ?_⟩
        simp [Except.map, DeviceState.answered, ConnectorStates.state, hprobed, hfetch]

theorem tells_answer (state : DeviceState) (query : Query) :
    node.Tells state.aspect ⟨query, (node.answer state query).1⟩ := by
  cases query with
  | connector id force => exact node.tells_connector state id force
  | crtc id =>
      have hreport : RawCrtc.report state.aspect = RawCrtc.snapshot state.aspect :=
        funext (RawCrtc.report_eq_snapshot state.aspect)
      exact congrArg (fun report => (fetch node.crtcs id).map report) hreport
  | resources | encoder | framebuffer | property | blob => trivial

end Node

def DeviceState.dimmed (state : DeviceState) : DeviceState :=
  { state with aspect := false }

theorem DeviceState.answered_withoutAspect (state : DeviceState) (force : Bool) (id : UInt32)
    (states : ConnectorStates) :
    state.answered force id states.withoutAspect =
      (state.dimmed.answered force id states).withoutAspect := by
  have hmodes : states.withoutAspect.lastKnown.modes = [] ↔ states.lastKnown.modes = [] :=
    List.map_eq_nil_iff
  simp only [answered, hmodes]
  exact (apply_ite RawConnector.withoutAspect _ _ _).symm

namespace Node

theorem fetch_map_held {κ α β : Type} [DecidableEq κ] (table : Table κ (Except Int α))
    (change : α -> β) (id : κ) :
    fetch (table.map fun _ held => held.map change) id = (fetch table id).map change := by
  unfold fetch
  rw [Table.find?_map]
  cases table.find? id with
  | none => rfl
  | some held => cases held <;> rfl

theorem map_map {ε α β γ : Type} (result : Except ε α) (first : α -> β) (second : β -> γ) :
    (result.map first).map second = result.map fun object => second (first object) := by
  cases result <;> rfl

variable (node : Node)

theorem connector_withoutAspect (state : DeviceState) (id : UInt32) (force : Bool) :
    (node.withoutAspect.connector state id force).1 =
        (node.connector state.dimmed id force).1 ∧
      (node.withoutAspect.connector state id force).2.dimmed =
        (node.connector state.dimmed id force).2 := by
  have hheld : fetch node.withoutAspect.connectors id =
      (fetch node.connectors id).map ConnectorStates.withoutAspect :=
    fetch_map_held node.connectors ConnectorStates.withoutAspect id
  constructor
  · rw [connector_eq_map, connector_eq_map, hheld, map_map]
    simp only [DeviceState.answered_withoutAspect, RawConnector.snapshot_withoutAspect]
    rfl
  · cases hfetch : fetch node.connectors id with
    | error cause => simp [connector, hheld, hfetch, Except.map, DeviceState.dimmed]
    | ok states =>
        have hprobes : probes states.withoutAspect force = probes states force := by
          simp [probes, ConnectorStates.withoutAspect, RawConnector.withoutAspect]
        simp only [connector, hheld, hfetch, Except.map, hprobes]
        rfl

/-- A device without aspect ratios answers in every state as one that keeps them back. -/
theorem answer_withoutAspect (state : DeviceState) (query : Query) :
    (node.withoutAspect.answer state query).1 = (node.answer state.dimmed query).1 ∧
      (node.withoutAspect.answer state query).2.dimmed = (node.answer state.dimmed query).2 := by
  cases query with
  | resources =>
      simp only [answer, withoutAspect]
      cases node.listingFailure <;> exact ⟨rfl, rfl⟩
  | connector id force => exact node.connector_withoutAspect state id force
  | crtc id =>
      refine ⟨?_, rfl⟩
      have hheld : fetch node.withoutAspect.crtcs id =
          (fetch node.crtcs id).map RawCrtc.withoutAspect :=
        fetch_map_held node.crtcs RawCrtc.withoutAspect id
      have hreport : ∀ crtc : RawCrtc,
          crtc.withoutAspect.report state.aspect = crtc.report state.dimmed.aspect := by
        intro crtc
        rw [RawCrtc.report_eq_snapshot, RawCrtc.report_eq_snapshot, RawCrtc.snapshot_withoutAspect]
        rfl
      simp only [answer, hheld, map_map, hreport]
  | encoder | framebuffer | property | blob => exact ⟨rfl, rfl⟩

end Node

namespace Device

theorem agree_withoutAspect (device : Device) :
    Script.Agree (fun _ _ => True) (fun _ => True)
      (fun state state' : DeviceState => state = state'.dimmed) device.source
      device.withoutAspect.source := by
  rintro _ state' query rfl -
  obtain ⟨hanswer, hlater⟩ := device.node.answer_withoutAspect state' query
  exact ⟨hanswer.symm, trivial, hlater.symm⟩

/--
A device without aspect ratios answers the same whether it was requested to report them or not.
-/
theorem agree_dimmed (device : Device) :
    Script.Agree (fun _ _ => True) (fun _ => True)
      (fun state state' : DeviceState => state.dimmed = state'.dimmed)
      device.withoutAspect.source device.withoutAspect.source := by
  intro state state' query hdimmed _
  obtain ⟨hanswer, hlater⟩ := device.node.answer_withoutAspect state query
  obtain ⟨hanswer', hlater'⟩ := device.node.answer_withoutAspect state' query
  rw [hdimmed] at hanswer hlater
  exact ⟨hanswer.trans hanswer'.symm, trivial, hlater.trans hlater'.symm⟩

/-! ## Requests in a session -/

section Requests

variable {device : Device} {start : DeviceState} {calls : List Call}

theorem enableAspect_of_refusal {errno : Int} (hrefusal : device.node.aspectFailure = some errno)
    (state : DeviceState) : device.enableAspect state = (.error (.system errno), state) := by
  simp only [enableAspect, hrefusal]

theorem enableAspect_of_grant (hgrant : device.node.aspectFailure = none) (state : DeviceState) :
    device.enableAspect state = (.ok (), { state with aspect := true }) := by
  simp only [enableAspect, hgrant]

/-- Every request gets the same reply. -/
theorem enabled_mem_replies (device : Device) (start state : DeviceState) {calls : List Call}
    (hrequest : .enableAspect ∈ calls) :
    .enabled (device.enableAspect state).1 ∈ device.replies start calls := by
  obtain ⟨before, later, rfl⟩ := List.append_of_mem hrequest
  have hsame : (device.enableAspect state).1 =
      (device.enableAspect (device.after start before)).1 := by
    unfold enableAspect
    split <;> rfl
  rw [replies_append, hsame]
  exact List.mem_append_right _ List.mem_cons_self

theorem aspect_call (state : DeviceState) (call : Call) :
    (device.call state call).2.aspect = true ↔
      state.aspect = true ∨ (device.call state call).1 = .enabled (.ok ()) := by
  cases call with
  | driverName => simp [Device.call]
  | enableAspect =>
      cases hfailure : device.node.aspectFailure with
      | none => simp [Device.call, enableAspect_of_grant hfailure]
      | some errno => simp [Device.call, enableAspect_of_refusal hfailure]
  | ask query => simp [Device.call, Node.aspect_answer]
  | report options sink =>
      have hkept : ((Report.script options).run device.source state sink).state.aspect =
          state.aspect := by
        have hstep : ∀ (now : DeviceState) query, now.aspect = state.aspect ->
            (device.source.answer now query).2.aspect = state.aspect :=
          fun now query hnow => (device.node.aspect_answer now query).trans hnow
        exact (Report.script options).keeps_run hstep rfl sink
      simp [Device.call, hkept]

/-- A device reports aspect ratios if and only if it did from the start or granted a request. -/
theorem aspect_after :
    (device.after start calls).aspect = true ↔
      start.aspect = true ∨ .enabled (.ok ()) ∈ device.replies start calls := by
  induction calls generalizing start with
  | nil => simp [after, replies]
  | cons call rest ih =>
      rw [after, ih, aspect_call, replies, List.mem_cons, or_assoc]
      exact or_congr_right (or_congr_left eq_comm)

theorem aspect_after_of_never (haspect : start.aspect = false)
    (hnever : .enabled (.ok ()) ∉ device.replies start calls) :
    (device.after start calls).aspect = false := by
  rw [Bool.eq_false_iff]
  intro hreports
  rcases aspect_after.mp hreports with hstart | hgranted
  · rw [haspect] at hstart
    exact Bool.false_ne_true hstart
  · exact hnever hgranted

/-- A request that is refused, or not the first one, leaves the device as it was. -/
theorem enableAspect_idle
    (hidle : (∃ cause, (device.enableAspect (device.after start calls)).1 = .error cause) ∨
      .enableAspect ∈ calls) :
    (device.call (device.after start calls) .enableAspect).2 = device.after start calls := by
  simp only [Device.call]
  cases hfailure : device.node.aspectFailure with
  | some errno => rw [enableAspect_of_refusal hfailure]
  | none =>
      rw [enableAspect_of_grant hfailure] at hidle ⊢
      rcases hidle with ⟨cause, hrefused⟩ | hrequest
      · exact absurd hrefused (by simp)
      · have hgranted := device.enabled_mem_replies start start hrequest
        rw [enableAspect_of_grant hfailure] at hgranted
        have hreports := aspect_after.mpr (.inr hgranted)
        rw [← hreports]

/--
Through the same fetches a device that granted no request and one without aspect ratios stay alike,
whatever was requested of the latter.
-/
theorem dimmed_after_of_never {calls' : List Call} (haspect : start.aspect = false)
    (hnever : .enabled (.ok ()) ∉ device.replies start calls)
    (hfetches : calls'.filter Call.fetches = calls.filter Call.fetches) :
    device.after start calls = (device.withoutAspect.after start calls').dimmed := by
  have hidle : ∀ call ∈ calls, call.fetches = false -> ∀ state state' : DeviceState,
      state = state'.dimmed -> (device.call state call).2 = state'.dimmed := by
    intro call hcall hfetches state state' hrelated
    cases call with
    | ask | report => exact absurd hfetches (by simp [Call.fetches])
    | driverName => exact hrelated
    | enableAspect =>
        cases hfailure : device.node.aspectFailure with
        | some errno => simpa [Device.call, enableAspect_of_refusal hfailure] using hrelated
        | none =>
            have hgranted := device.enabled_mem_replies start start hcall
            rw [enableAspect_of_grant hfailure] at hgranted
            exact absurd hgranted hnever
  have hidle' : ∀ call ∈ calls', call.fetches = false -> ∀ state state' : DeviceState,
      state.dimmed = state'.dimmed ->
        (device.withoutAspect.call state call).2.dimmed = state'.dimmed := by
    intro call _ hfetches state state' hrelated
    cases call with
    | ask | report => exact absurd hfetches (by simp [Call.fetches])
    | driverName => exact hrelated
    | enableAspect => exact hrelated
  have hstart : start = start.dimmed := by
    rw [DeviceState.dimmed, ← haspect]
  calc
    device.after start calls =
        (device.withoutAspect.after start (calls.filter Call.fetches)).dimmed :=
      related_after device.agree_withoutAspect hidle hstart
    _ = (device.withoutAspect.after start (calls'.filter Call.fetches)).dimmed := by
      rw [hfetches]
    _ = (device.withoutAspect.after start calls').dimmed :=
      (related_after device.agree_dimmed hidle' rfl).symm

/-! ## What is told in a session -/

theorem tells_and_keeps {aspect : Bool} (state : DeviceState) (query : Query)
    (haspect : state.aspect = aspect) :
    device.node.Tells aspect ⟨query, (device.node.answer state query).1⟩ ∧
      (device.node.answer state query).2.aspect = aspect := by
  subst haspect
  exact ⟨device.node.tells_answer state query, device.node.aspect_answer state query⟩

theorem tells_run {aspect : Bool} {state : DeviceState} (haspect : state.aspect = aspect)
    (options : Options) (sink : Sink) :
    ∀ exchange ∈ ((Report.script options).run device.source state sink).exchanges,
      device.node.Tells aspect exchange := by
  have hstep : ∀ (now : DeviceState) query, now.aspect = aspect -> True ->
      True ∧ device.node.Tells aspect ⟨query, (device.source.answer now query).1⟩ ∧
        (device.source.answer now query).2.aspect = aspect :=
    fun now query hnow _ => ⟨trivial, tells_and_keeps now query hnow⟩
  refine (Script.Asks.run_keeps hstep (Report.script options).asks_anything ?_ sink).2
  exact haspect

/-- After a granted request connectors and controllers are told with their full flags. -/
theorem tells_after_grant (hgranted : .enabled (.ok ()) ∈ device.replies start calls)
    (later : List Call) :
    ∀ reply ∈ device.replies (device.after start calls) later, ∀ exchange ∈ reply.exchanges,
      device.node.Tells true exchange := by
  have hrequest : ∀ now : DeviceState, now.aspect = true ->
      (device.enableAspect now).2.aspect = true := by
    intro now hnow
    cases hfailure : device.node.aspectFailure with
    | none => rw [enableAspect_of_grant hfailure]
    | some errno => rwa [enableAspect_of_refusal hfailure]
  have hreports : (device.after start calls).aspect = true := aspect_after.mpr (.inr hgranted)
  refine (session_keeps (fun now query hnow _ => tells_and_keeps now query hnow) hrequest
    (fun call _ => call.asks_anything) ?_).2
  exact hreports

end Requests

end Device

end Kernel

/-! ## Debug lines -/

namespace StyledBlock

/-- The modes that have a debug line in a block, with the objects that they belong to. -/
def modes : StyledBlock -> List (Mode × String)
  | .mode encoderId index shown =>
      [(shown, "connector " ++ Text.decimal encoderId.toNat ++ " " ++
        Text.decimal (index % 0x100000000))]
  | .encoder _ _ => []
  | .crtc id shown =>
      shown.mode.toList.map fun active => (active, "crtc " ++ Text.decimal id.toNat ++ " 0")

theorem exists_debug_eq (block : StyledBlock) :
    ∃ start, block.debug =
      start ++ String.join (block.modes.map fun shown => shown.1.debugText shown.2) := by
  cases block with
  | mode encoderId index shown => exact ⟨"", by simp [debug, modes]⟩
  | encoder id shown => exact ⟨_, String.append_empty.symm⟩
  | crtc id shown =>
      refine ⟨Text.unlines (shown.lines false id), ?_⟩
      cases hmode : shown.mode <;> simp [debug, modes, hmode]

theorem mem_of_mem_ofExchange {options : Options} {id : UInt32} {force : Bool}
    {found : Connector} {block : StyledBlock}
    (hblock : block ∈ ofExchange options ⟨.connector id force, .ok found⟩)
    {shown : Mode × String} (hshown : shown ∈ block.modes) : shown.1 ∈ found.modes := by
  have hmodes : block ∈ if options.modes then ofModes found.encoderId 0 found.modes else [] :=
    hblock
  split at hmodes
  · obtain ⟨entry, hentry, rfl⟩ := List.mem_map.mp hmodes
    rw [List.mem_singleton.mp hshown]
    exact List.fst_mem_of_mem_zipIdx hentry
  · exact absurd hmodes List.not_mem_nil

/-- The modes of what is told without aspect ratios are told so themselves. -/
theorem exists_snapshot_of_tells {node : Kernel.Node} {options : Options} {exchange : Exchange}
    (htells : node.Tells false exchange) {block : StyledBlock}
    (hblock : block ∈ ofExchange options exchange) {shown : Mode × String}
    (hshown : shown ∈ block.modes) :
    ∃ mode : Kernel.RawMode, shown.1 = mode.snapshot false := by
  obtain ⟨query, answer⟩ := exchange
  cases answer with
  | error cause => cases query <;> exact absurd hblock List.not_mem_nil
  | ok found =>
      cases query with
      | resources | framebuffer | property | blob => exact absurd hblock List.not_mem_nil
      | encoder id =>
          rw [List.mem_singleton.mp hblock] at hshown
          exact absurd hshown List.not_mem_nil
      | crtc id =>
          rw [List.mem_singleton.mp hblock] at hshown
          obtain ⟨active, hactive, rfl⟩ := List.mem_map.mp hshown
          have hfound : .ok found = (Kernel.Node.fetch node.crtcs id).map
              (Kernel.RawCrtc.snapshot false) := htells
          cases hheld : Kernel.Node.fetch node.crtcs id with
          | error cause => simp [hheld, Except.map] at hfound
          | ok held =>
              rw [hheld] at hfound
              rw [Except.ok.inj hfound] at hactive
              exact Kernel.RawCrtc.exists_of_mem_mode (Option.mem_toList.mp hactive)
      | connector id force =>
          obtain ⟨probed, hfound⟩ : ∃ probed, .ok found = (Kernel.Node.fetch node.connectors id).map
              fun states => (states.state probed).snapshot false := htells
          cases hheld : Kernel.Node.fetch node.connectors id with
          | error cause => simp [hheld, Except.map] at hfound
          | ok held =>
              rw [hheld] at hfound
              have hlisted : shown.1 ∈ found.modes := mem_of_mem_ofExchange hblock hshown
              rw [Except.ok.inj hfound] at hlisted
              obtain ⟨mode, -, hmode⟩ := List.mem_map.mp hlisted
              exact ⟨mode, hmode.symm⟩

end StyledBlock

/-- A report in the debug style leaves a sink as if the pieces of its text were written at once. -/
theorem Report.sink_run_debug {State : Type} (source : Source State) (state : State)
    {options : Options} (hdebug : options.debugModes = true) (sink : Sink) :
    ∃ pieces : List (Piece StyledBlock),
      ((script options).run source state sink).sink =
          (sink.write (Piece.worded StyledBlock.debug pieces)).2 ∧
        pieces.filterMap Piece.block? =
          ((script options).run source state Sink.unlimited).exchanges.flatMap
            (StyledBlock.ofExchange options) := by
  have hoptions : { options with debugModes := true } = options := by
    rw [← hdebug]
  obtain ⟨-, hexchanges, -, pieces, -, hwritten, hblocks⟩ :=
    (restyled_script options).course_eq source state
  rw [hoptions] at hexchanges hwritten
  refine ⟨pieces, ?_, ?_⟩
  · rw [sink_run_script, hwritten]
  · rw [(Script.run_unlimited source (script options) state).2.1, hexchanges, hblocks]
    rfl

namespace Kernel.Device

/-- A report without aspect ratios has debug lines without them. -/
theorem debug_lines_without_aspect (device : Device) {state : DeviceState}
    (haspect : state.aspect = false) {options : Options} (hdebug : options.debugModes = true)
    (sink : Sink) :
    ∃ pieces : List (Piece StyledBlock),
      ((Report.script options).run device.source state sink).sink =
          (sink.write (Piece.worded StyledBlock.debug pieces)).2 ∧
        pieces.filterMap Piece.block? =
          ((Report.script options).run device.source state Sink.unlimited).exchanges.flatMap
            (StyledBlock.ofExchange options) ∧
        ∀ block ∈ pieces.filterMap Piece.block?, ∃ start, block.debug =
          start ++ String.join (block.modes.map fun shown =>
            "Mode: " ++ shown.1.name ++ " @ " ++ Text.decimal shown.1.vrefresh.toNat ++
              " Hz, clock: " ++ Decimal.showThousandths shown.1.clock.toNat ++
              " Mhz, aspect: n/a " ++ shown.2 ++ "\n") := by
  obtain ⟨pieces, hsink, hblocks⟩ := Report.sink_run_debug device.source state hdebug sink
  refine ⟨pieces, hsink, hblocks, fun block hblock => ?_⟩
  rw [hblocks] at hblock
  obtain ⟨exchange, hexchange, hstyled⟩ := List.mem_flatMap.mp hblock
  have htells := tells_run haspect options Sink.unlimited exchange hexchange
  obtain ⟨start, hdebugged⟩ := block.exists_debug_eq
  refine ⟨start, hdebugged.trans ?_⟩
  refine congrArg (start ++ String.join ·) (List.map_congr_left fun shown hshown => ?_)
  obtain ⟨mode, hmode⟩ := StyledBlock.exists_snapshot_of_tells htells hstyled hshown
  rw [hmode]
  exact mode.debugText_snapshot shown.2

/--
A device that granted no request for aspect ratios is seen, through whatever fetches, as one of the
host without them that granted it: reports over the two can not be told apart.  All that is lost are
four bits of the flags of modes, and in the debug style every mode is told to have no aspect ratio.
Over every sequence of calls, once a request is granted connectors and controllers are told with
their full flags, and a request that is refused or repeated changes nothing.
-/
theorem only_aspect_bits_are_lost (host : Host) (chosen driver : Option String) (device : Device)
    (start : DeviceState) :
    host.withoutAspect.openMatching chosen driver =
        ((host.openMatching chosen driver).1.map Device.withoutAspect,
          (host.openMatching chosen driver).2) ∧
      (∀ (mode : RawMode) (bit : Nat),
        (mode.snapshot false).flags = mode.withoutAspect.flags ∧
          mode.withoutAspect.flags.toNat.testBit bit =
            (mode.flags.toNat.testBit bit && !decide (19 ≤ bit ∧ bit ≤ 22))) ∧
      (∀ calls calls' options sink,
        start.aspect = false -> .enabled (.ok ()) ∉ device.replies start calls ->
        calls'.filter Call.fetches = calls.filter Call.fetches -> .enableAspect ∈ calls' ->
        let run := (Report.script options).run device.source (device.after start calls) sink
        let whole := (Report.script options).run device.source (device.after start calls)
          Sink.unlimited
        let full := (Report.script options).run device.withoutAspect.source
          (device.withoutAspect.after start calls') sink
        .enabled (.ok ()) ∈ device.withoutAspect.replies start calls' ∧ run.seen = full.seen ∧
          (∀ exchange ∈ run.exchanges, device.node.Tells false exchange) ∧
          (options.debugModes = true ->
            ∃ pieces : List (Piece StyledBlock),
              run.sink = (sink.write (Piece.worded StyledBlock.debug pieces)).2 ∧
                pieces.filterMap Piece.block? =
                  whole.exchanges.flatMap (StyledBlock.ofExchange options) ∧
                ∀ block ∈ pieces.filterMap Piece.block?, ∃ start, block.debug =
                  start ++ String.join (block.modes.map fun shown =>
                    "Mode: " ++ shown.1.name ++ " @ " ++ Text.decimal shown.1.vrefresh.toNat ++
                      " Hz, clock: " ++ Decimal.showThousandths shown.1.clock.toNat ++
                      " Mhz, aspect: n/a " ++ shown.2 ++ "\n"))) ∧
      (∀ calls later, .enabled (.ok ()) ∈ device.replies start calls ->
        ∀ reply ∈ device.replies (device.after start calls) later, ∀ exchange ∈ reply.exchanges,
          device.node.Tells true exchange) ∧
      ∀ calls later,
        (∃ cause, (device.enableAspect (device.after start calls)).1 = .error cause) ∨
            .enableAspect ∈ calls ->
          device.Unnoticed start calls .enableAspect later := by
  refine ⟨host.openMatching_withoutAspect chosen driver, ?_, ?_, ?_, ?_⟩
  · exact fun mode bit => ⟨rfl, testBit_withoutAspect mode.flags bit⟩
  · intro calls calls' options sink haspect hnever hfetches hrequest run whole full
    have hlost := aspect_after_of_never haspect hnever
    have hrelated := dimmed_after_of_never haspect hnever hfetches
    have hseen := (Report.script options).asks_anything.seen_run_eq device.agree_withoutAspect
      hrelated sink
    exact ⟨device.withoutAspect.enabled_mem_replies start start hrequest, hseen.1,
      tells_run hlost options sink,
      fun hdebug => device.debug_lines_without_aspect hlost hdebug sink⟩
  · exact fun calls later hgranted => tells_after_grant hgranted later
  · exact fun calls later hidle => unnoticed_of_idle (enableAspect_idle hidle) later

/--
A device that refuses the request and one that grants it.  The flags of their only mode tell an
aspect ratio of 16:9; without the request they read 5.
-/
theorem aspect_refused_and_granted :
    let shown : RawMode := { vrefresh := 60, flags := 0x00100005 }
    let states : ConnectorStates := ⟨{ modes := [shown] }, { modes := [shown] }⟩
    let node : Node :=
      { listing := { connectors := [7], crtcs := [50] }
        connectors := Table.ofList [(7, .ok states)]
        crtcs := Table.ofList [(50, .ok { modeValid := 1, mode := shown })] }
    let refusing : Device := ⟨"/dev/dri/card0", { node with aspectFailure := some 95 }⟩
    let granting : Device := ⟨"/dev/dri/card1", node⟩
    let host : Host :=
      { nodes := Table.ofList [(refusing.path, .ok refusing.node), (granting.path, .ok node)] }
    let options : Options :=
      { connectors := true, crtcs := true, modes := true, debugModes := true }
    let calls : List Call := [.enableAspect, .ask (.connector 7 true)]
    let calls' : List Call := [.ask (.connector 7 true), .enableAspect]
    let run := (Report.script options).run refusing.source (refusing.after {} calls) Sink.unlimited
    let full := (Report.script options).run refusing.withoutAspect.source
      (refusing.withoutAspect.after {} calls') Sink.unlimited
    (host.withoutAspect.openMatching (some refusing.path) none).1 = .ok refusing.withoutAspect ∧
      .enabled (.ok ()) ∉ refusing.replies {} calls ∧ run.seen = full.seen ∧
      (shown.snapshot false).flags = 5 ∧ (shown.snapshot true).flags = 0x00100005 ∧
      (∃ pieces : List (Piece StyledBlock),
        run.sink = (Sink.unlimited.write (Piece.worded StyledBlock.debug pieces)).2 ∧
          pieces.filterMap Piece.block? =
            [.mode 0 0 (shown.snapshot false),
             .crtc 50 { mode := some (shown.snapshot false) }]) ∧
      refusing.Unnoticed {} [] .enableAspect [.ask (.crtc 50)] ∧
      granting.node.Tells true
        ⟨.crtc 50, (granting.node.answer (granting.after {} calls) (.crtc 50)).1⟩ ∧
      granting.Unnoticed {} calls .enableAspect [.ask (.crtc 50)] := by
  intro shown states node refusing granting host options calls calls' run full
  have hnever : Reply.enabled (.ok ()) ∉ refusing.replies {} calls := by
    simp [calls, replies, call, refusing, enableAspect]
  have hgranted : Reply.enabled (.ok ()) ∈ granting.replies {} calls := List.mem_cons_self
  have hpath : host.openPath refusing.path = .ok refusing := by
    simp [Host.openPath, host, refusing, granting, Table.ofList, Table.insert, Table.find?,
      Table.erase, Table.findIn]
  have hasked := (Script.run_unlimited refusing.source (Report.script options)
    (refusing.after {} calls)).2.1
  obtain ⟨hopen, -, hreport, -, hrefused⟩ :=
    only_aspect_bits_are_lost host (some refusing.path) none refusing {}
  obtain ⟨-, -, -, hfull, hrepeated⟩ :=
    only_aspect_bits_are_lost host (some granting.path) none granting {}
  obtain ⟨-, hseen, -, hdebug⟩ := hreport calls calls' options Sink.unlimited rfl hnever rfl
    (.tail _ (.head _))
  obtain ⟨pieces, hsink, hblocks, -⟩ := hdebug rfl
  refine ⟨?_, hnever, hseen, by decide, by decide, ⟨pieces, hsink, hblocks.trans ?_⟩, ?_, ?_, ?_⟩
  · rw [hopen]
    exact congrArg (Except.map withoutAspect) hpath
  · exact congrArg (List.flatMap (StyledBlock.ofExchange options)) hasked
  · exact hrefused [] _ (.inl ⟨.system 95, rfl⟩)
  · exact hfull calls [.ask (.crtc 50)] hgranted _ (.head _) _ (.head _)
  · exact hrepeated calls _ (.inr (.head _))

end Kernel.Device

end DisplayInventory
