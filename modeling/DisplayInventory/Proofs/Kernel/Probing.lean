import DisplayInventory.Proofs.Kernel.Mirror
import DisplayInventory.Proofs.Kernel.Session
import DisplayInventory.Proofs.Report.LimitedSink
import DisplayInventory.Proofs.Script.Reforced

/-!
# Probing

A connector is answered for as it was last known until it is probed, and as found by probing from
then on.  So long as nothing forces a probe, the connectors probed are those that tell no mode
without it, and these are answered for as found by probing anyway.  Connectors that have been probed
stay so, and it makes no difference any more whether a report has them probed.
-/

namespace DisplayInventory

theorem Query.connector_or (query : Query) :
    (∃ id force, query = .connector id force) ∨ ∀ id force, query ≠ .connector id force := by
  by_cases hquery : ∃ id force, query = .connector id force
  · exact .inl hquery
  · exact .inr fun id force heq => hquery ⟨id, force, heq⟩

def Exchange.OfConnector (holds : UInt32 -> Except IoError Connector -> Prop) : Exchange -> Prop
  | ⟨.connector id _, answer⟩ => holds id answer
  | _ => True

namespace Kernel

namespace Node

variable (node : Node)

/-- A question that is not for a connector leaves a device as it was. -/
theorem answer_idle (state : DeviceState) {query : Query}
    (hquery : ∀ id force, query ≠ .connector id force) : (node.answer state query).2 = state := by
  cases query with
  | resources =>
      simp only [answer]
      cases node.listingFailure <;> rfl
  | connector id force => exact absurd rfl (hquery id force)
  | encoder | crtc | framebuffer | property | blob => rfl

/-- What becomes of the probed connectors by a request for one. -/
theorem probed_connector (state : DeviceState) (id : UInt32) (force : Bool) :
    (node.connector state id force).2.probed = state.probed ∧
        (∀ states, fetch node.connectors id = .ok states -> probes states force = false) ∨
      (node.connector state id force).2.probed = id :: state.probed ∧
        ∀ states, fetch node.connectors id = .ok states -> probes states force = true := by
  unfold connector
  cases hfetch : fetch node.connectors id with
  | error cause => exact .inl ⟨rfl, fun states hstates => absurd hstates (by simp)⟩
  | ok held =>
      cases hprobes : probes held force with
      | false =>
          refine .inl ⟨by simp [hprobes], fun states hstates => ?_⟩
          rw [← Except.ok.inj hstates, hprobes]
      | true =>
          refine .inr ⟨by simp [hprobes], fun states hstates => ?_⟩
          rw [← Except.ok.inj hstates, hprobes]

theorem subset_probed_answer (state : DeviceState) (query : Query) :
    state.probed ⊆ (node.answer state query).2.probed := by
  rcases query.connector_or with ⟨id, force, rfl⟩ | hother
  · obtain ⟨hsame, -⟩ | ⟨hmore, -⟩ := node.probed_connector state id force
    · exact hsame.symm ▸ List.Subset.refl state.probed
    · exact hmore.symm ▸ List.subset_cons_self id state.probed
  · rw [node.answer_idle state hother]
    exact List.Subset.refl state.probed

/-! ## Connectors that nothing forced -/

/-- Whether only such connectors were probed as tell no mode without it. -/
def Untouched (state : DeviceState) : Prop :=
  ∀ id ∈ state.probed, ∀ states, fetch node.connectors id = .ok states ->
    states.lastKnown.modes = []

variable {node}

theorem Untouched.answer {state : DeviceState} (huntouched : node.Untouched state) {query : Query}
    (hquery : ∀ id, query ≠ .connector id true) :
    node.Untouched (node.answer state query).2 := by
  rcases query.connector_or with ⟨id, force, rfl⟩ | hother
  · have hforce : force = false := by
      cases force with
      | false => rfl
      | true => exact absurd rfl (hquery id)
    subst hforce
    obtain ⟨hsame, -⟩ | ⟨hmore, hprobes⟩ := node.probed_connector state id false
    · intro other hother
      exact huntouched other (hsame ▸ hother)
    · intro other hother states hstates
      rcases List.mem_cons.mp (hmore ▸ hother) with rfl | hbefore
      · simpa [probes] using hprobes states hstates
      · exact huntouched other hbefore states hstates
  · rwa [node.answer_idle state hother]

/-- Where nothing was forced, no connector answers otherwise than at the start. -/
theorem Untouched.settled {state : DeviceState} (huntouched : node.Untouched state) :
    Settled node false { aspect := state.aspect } state := by
  refine ⟨rfl, fun id states hstates => ?_⟩
  by_cases hmodes : states.lastKnown.modes = []
  · simp [DeviceState.answered, hmodes]
  · have hprobed : id ∉ state.probed := fun hmem => hmodes (huntouched id hmem states hstates)
    simp [DeviceState.answered, hmodes, hprobed]

/--
The card of an untouched device has every connector in its last known state that tells a mode.
-/
theorem answer_card_of_modes {id : UInt32} {states : ConnectorStates}
    (hstates : fetch node.connectors id = .ok states) (hmodes : states.lastKnown.modes ≠ [])
    (aspect force : Bool) :
    (node.card { aspect } false).answer (.connector id force) =
      .ok (states.lastKnown.snapshot aspect) := by
  simp only [card, Card.answer, cardConnectors, fetch_map, hstates, Except.map]
  simp [DeviceState.answered, hmodes]

/-! ## Connectors that were probed -/

/-- Whether a connector is answered for as found by probing, however it is asked for. -/
def Probed (node : Node) (state : DeviceState) (id : UInt32) : Prop :=
  ∀ states, fetch node.connectors id = .ok states ->
    states.lastKnown.modes = [] ∨ id ∈ state.probed

theorem Probed.answer {state : DeviceState} {id : UInt32} (hprobed : node.Probed state id)
    (query : Query) : node.Probed (node.answer state query).2 id := by
  intro states hstates
  rcases hprobed states hstates with hmodes | hmem
  · exact .inl hmodes
  · exact .inr (node.subset_probed_answer state query hmem)

/-- A connector is probed by being asked for with force. -/
theorem probed_of_force (node : Node) (state : DeviceState) (id : UInt32) :
    node.Probed (node.connector state id true).2 id := by
  intro states hstates
  obtain ⟨-, hnot⟩ | ⟨hmore, -⟩ := node.probed_connector state id true
  · exact absurd (hnot states hstates) (by simp [probes])
  · exact .inr (hmore ▸ List.mem_cons_self)

theorem Probed.connector_eq {state : DeviceState} {id : UInt32} (hprobed : node.Probed state id)
    (force : Bool) :
    (node.connector state id force).1 =
      (fetch node.connectors id).map fun states => states.probed.snapshot state.aspect := by
  rw [connector_eq_map]
  cases hfetch : fetch node.connectors id with
  | error cause => rfl
  | ok states =>
      have hanswered : state.answered force id states = states.probed :=
        if_pos (.inr (hprobed states hfetch))
      rw [Except.map, hanswered]
      rfl

end Node

/-! ## Reports that force nothing -/

def Call.IsGentle : Call -> Prop
  | .ask query => ∀ id, query ≠ .connector id true
  | .report options _ => options.connectors = true -> options.current = true
  | .driverName | .enableAspect => True

theorem Call.IsGentle.asks {call : Call} (hgentle : call.IsGentle) :
    call.Asks fun query => ∀ id, query ≠ .connector id true := by
  cases call with
  | driverName | enableAspect => trivial
  | ask query => exact hgentle
  | report options sink =>
      have hdetails : Report.PermitsDetails options (fun _ _ => True)
          fun query => ∀ id, query ≠ .connector id true :=
        fun _ _ _ => ⟨fun _ _ _ => by simp, fun _ _ _ => by simp⟩
      refine Report.script_asks_listed hdetails (by simp) fun _ _ category hshows id _ => ?_
      cases category with
      | connectors => simp [Category.question, hgentle hshows]
      | encoders | crtcs | framebuffers => simp [Category.question]

namespace Device

variable {device : Device} {options : Options}

theorem probed_enableAspect (state : DeviceState) :
    (device.enableAspect state).2.probed = state.probed := by
  unfold enableAspect
  split <;> rfl

theorem untouched_after (device : Device) {start : DeviceState} {calls : List Call}
    (hstart : start.probed = []) (hgentle : ∀ call ∈ calls, call.IsGentle) :
    device.node.Untouched (device.after start calls) := by
  have hkeeps : device.node.Untouched start := by
    intro id hid
    rw [hstart] at hid
    exact absurd hid List.not_mem_nil
  have hanswer : ∀ state query, device.node.Untouched state ->
      (∀ id, query ≠ .connector id true) ->
      device.node.Untouched (device.node.answer state query).2 :=
    fun state query huntouched hquery => huntouched.answer hquery
  have hrequest : ∀ state, device.node.Untouched state ->
      device.node.Untouched (device.enableAspect state).2 := by
    intro state huntouched id hid
    rw [probed_enableAspect] at hid
    exact huntouched id hid
  exact after_keeps hanswer hrequest (fun call hcall => (hgentle call hcall).asks) hkeeps

theorem script_asks_gentle (device : Device) (start : DeviceState)
    (hgentle : options.connectors = true -> options.current = true) :
    (Report.script options).Asks
      (fun query answer => answer = (device.node.card start false).answer query)
      (Node.Answerable device.node start false) := by
  refine Report.script_asks_listed (device.permitsDetails_card start false options) trivial
    fun _ _ category hshows id _ => ?_
  cases category with
  | connectors =>
      have hcurrent : options.current = true := hgentle hshows
      show (!options.current) = false
      rw [hcurrent]
      rfl
  | encoders | crtcs | framebuffers => trivial

/-- A report that forces nothing, over a device that nothing was forced on, is one over its card. -/
theorem run_of_untouched {now : DeviceState} (huntouched : device.node.Untouched now)
    (hgentle : options.connectors = true -> options.current = true) (sink : Sink) :
    let card := device.node.card { aspect := now.aspect } false
    let run := (Report.script options).run device.source now sink
    run.seen = ((Report.script options).run (card.source []) 0 sink).seen ∧
      ∀ exchange ∈ run.exchanges, exchange.answer = card.answer exchange.query := by
  intro card run
  have hasks := device.script_asks_gentle { aspect := now.aspect } hgentle
  refine ⟨?_, ?_⟩
  · exact (hasks.seen_run_eq (device.agree_card { aspect := now.aspect } false)
      huntouched.settled sink).1
  · have hstep : ∀ state query,
        Node.Settled device.node false { aspect := now.aspect } state ->
        Node.Answerable device.node { aspect := now.aspect } false query ->
        (device.source.answer state query).1 = card.answer query ∧
          (⟨query, (device.source.answer state query).1⟩ : Exchange).answer = card.answer query ∧
          Node.Settled device.node false { aspect := now.aspect }
            (device.source.answer state query).2 := by
      intro state query hsettled hanswerable
      have hanswer := Node.answer_eq_card hsettled hanswerable
      exact ⟨hanswer, hanswer, hsettled.answer hanswerable⟩
    exact (Script.Asks.run_keeps hstep hasks huntouched.settled sink).2

/-! ## Reports that force probes -/

/-- The connectors that a report had probed stay so to its end. -/
theorem probed_of_mem_queries (options : Options) (state : DeviceState) (sink : Sink)
    {id : UInt32}
    (hasked : .connector id true ∈
      ((Report.script options).run device.source state sink).queries) :
    device.node.Probed ((Report.script options).run device.source state sink).state id := by
  obtain ⟨exchange, hexchange, hquery⟩ := List.mem_map.mp hasked
  have hmark : ∀ now query, query = .connector id true ->
      device.node.Probed (device.source.answer now query).2 id := by
    rintro now _ rfl
    exact device.node.probed_of_force now id
  have hkeep : ∀ (exchange : Exchange) now query,
      (exchange.query = .connector id true -> device.node.Probed now id) ->
      exchange.query = .connector id true ->
        device.node.Probed (device.source.answer now query).2 id :=
    fun exchange now query hmarked hsame => (hmarked hsame).answer query
  exact Script.run_marks hmark hkeep (Report.script options) state sink exchange hexchange hquery

theorem probed_after {state : DeviceState} {id : UInt32} (hprobed : device.node.Probed state id)
    (later : List Call) : device.node.Probed (device.after state later) id := by
  have hanswer : ∀ now query, device.node.Probed now id -> True ->
      device.node.Probed (device.node.answer now query).2 id :=
    fun now query hnow _ => hnow.answer query
  have hrequest : ∀ now, device.node.Probed now id ->
      device.node.Probed (device.enableAspect now).2 id := by
    intro now hnow states hstates
    rw [probed_enableAspect]
    exact hnow states hstates
  exact after_keeps hanswer hrequest (fun call _ => call.asks_anything) hprobed

/-- In every report a probed connector is answered for as found by probing. -/
theorem ofConnector_of_probed {state : DeviceState} {id : UInt32}
    (hprobed : device.node.Probed state id) (options : Options) (sink : Sink) :
    ∀ exchange ∈ ((Report.script options).run device.source state sink).exchanges,
      exchange.OfConnector fun other answer => other = id ->
        answer = (Node.fetch device.node.connectors id).map fun states =>
          states.probed.snapshot state.aspect := by
  have hstep : ∀ (now : DeviceState) query,
      device.node.Probed now id ∧ now.aspect = state.aspect -> True ->
      True ∧
        (⟨query, (device.source.answer now query).1⟩ : Exchange).OfConnector
          (fun other answer => other = id ->
            answer = (Node.fetch device.node.connectors id).map fun states =>
              states.probed.snapshot state.aspect) ∧
        device.node.Probed (device.source.answer now query).2 id ∧
          (device.source.answer now query).2.aspect = state.aspect := by
    intro now query ⟨hnow, haspect⟩ _
    refine ⟨trivial, ?_, hnow.answer query, (device.node.aspect_answer now query).trans haspect⟩
    cases query with
    | connector other force =>
        rintro rfl
        exact haspect ▸ hnow.connector_eq force
    | resources | encoder | crtc | framebuffer | property | blob => trivial
  exact (Script.Asks.run_keeps hstep (Report.script options).asks_anything ⟨hprobed, rfl⟩ sink).2

end Device

end Kernel

namespace Report

open Script (Reforced)

/-- The two ways to ask for connectors are all that a report differs in with and without a probe. -/
theorem reforced_block (options : Options) (category : Category) (id : UInt32) :
    Reforced (block { options with current := true } category id)
      (block { options with current := false } category id) := by
  cases category with
  | connectors =>
      refine .connector id false true fun answer => ?_
      cases answer with
      | ok connector => exact .refl (connector.script { options with current := true } id)
      | error cause => exact .refl (missing "connector" id cause)
  | encoders | crtcs | framebuffers =>
      refine .ask _ fun answer => ?_
      cases answer <;> exact .refl _

theorem reforced_part (options : Options) (listing : Resources) (category : Category) :
    Reforced (part { options with current := true } listing category)
      (part { options with current := false } listing category) := by
  have hshows : ({ options with current := true } : Options).shows category =
      ({ options with current := false } : Options).shows category := by
    cases category <;> rfl
  unfold part
  rw [hshows]
  apply Reforced.onlyIf
  apply Reforced.bind
  · exact .each (reforced_block options category) _
  · exact fun _ => .refl (close category)

theorem reforced_script (options : Options) :
    Reforced (script { options with current := true })
      (script { options with current := false }) := by
  refine .ask .resources fun answer => ?_
  cases answer with
  | error cause => exact .refl _
  | ok listing =>
      have hbody : Reforced (body { options with current := true } listing)
          (body { options with current := false } listing) := by
        rw [body_eq_parts, body_eq_parts]
        apply Reforced.bind
        · exact .refl _
        · exact fun _ => .each (reforced_part options listing) _
      exact hbody.bind fun _ => .flush (.done ())

end Report

namespace Kernel

namespace Node

variable {node : Node}

def Lists (node : Node) (id : UInt32) : Prop :=
  node.listingFailure = none ∧ id ∈ node.listing.connectors

def Offers (node : Node) : (query : Query) -> query.Answer -> Prop
  | .resources, answer => ∀ listing, answer = .ok listing ->
      node.listingFailure = none ∧ listing = node.listing
  | _, _ => True

theorem offers_answer (state : DeviceState) (query : Query) :
    node.Offers query (node.answer state query).1 := by
  cases query with
  | resources =>
      intro listing hlisting
      simp only [answer] at hlisting
      cases hfailure : node.listingFailure with
      | none =>
          rw [hfailure] at hlisting
          exact ⟨rfl, (Except.ok.inj hlisting).symm⟩
      | some errno =>
          rw [hfailure] at hlisting
          exact absurd hlisting (by simp)
  | connector | encoder | crtc | framebuffer | property | blob => trivial

/-- What is no connector is answered for regardless of what was probed. -/
theorem answer_eq_of_aspect {state state' : DeviceState} (haspect : state.aspect = state'.aspect)
    {query : Query} (hquery : ∀ id force, query ≠ .connector id force) :
    (node.answer state query).1 = (node.answer state' query).1 := by
  cases query with
  | resources =>
      simp only [answer]
      cases node.listingFailure <;> rfl
  | connector id force => exact absurd rfl (hquery id force)
  | crtc id => simp only [answer, haspect]
  | encoder | framebuffer | property | blob => rfl

end Node

namespace Device

variable {device : Device} {options : Options}

/-- The connectors that a report with some options asks for. -/
def Wanted (device : Device) (options : Options) (id : UInt32) : Prop :=
  options.connectors = true ∧ device.node.Lists id

theorem script_asks_wanted (device : Device) (options : Options) :
    (Report.script options).Asks device.node.Offers
      fun query => ∀ id force, query = .connector id force -> device.Wanted options id := by
  have hdetails : Report.PermitsDetails options device.node.Offers
      fun query => ∀ id force, query = .connector id force -> device.Wanted options id :=
    fun _ _ _ => ⟨fun _ _ _ _ => by simp, fun _ _ _ _ => by simp⟩
  refine Report.script_asks_listed hdetails (by simp)
    fun listing hlisting category hshows id hid => ?_
  cases category with
  | connectors =>
      intro other force hsame
      obtain ⟨hlists, rfl⟩ := hlisting listing rfl
      have hother : id = other := by
        injection hsame
      exact hother ▸ ⟨hshows, hlists, hid⟩
  | encoders | crtcs | framebuffers =>
      intro other force hsame
      cases hsame

/-- Whether two states report alike, and have all connectors probed that a report asks for. -/
def BothProbed (device : Device) (options : Options) (state state' : DeviceState) : Prop :=
  state.aspect = state'.aspect ∧
    ∀ id, device.Wanted options id -> device.node.Probed state id ∧ device.node.Probed state' id

section BothProbed

variable {state state' : DeviceState}

theorem BothProbed.connector (hboth : device.BothProbed options state state') {id : UInt32}
    (hwanted : device.Wanted options id) (force force' : Bool) :
    (device.node.connector state id force).1 = (device.node.connector state' id force').1 := by
  obtain ⟨haspect, hprobed⟩ := hboth
  obtain ⟨hfirst, hsecond⟩ := hprobed id hwanted
  rw [hfirst.connector_eq force, hsecond.connector_eq force', haspect]

theorem BothProbed.after (hboth : device.BothProbed options state state') (query query' : Query) :
    device.BothProbed options (device.node.answer state query).2
      (device.node.answer state' query').2 := by
  obtain ⟨haspect, hprobed⟩ := hboth
  refine ⟨?_, fun id hwanted => ?_⟩
  · rw [device.node.aspect_answer, device.node.aspect_answer, haspect]
  · obtain ⟨hfirst, hsecond⟩ := hprobed id hwanted
    exact ⟨hfirst.answer query, hsecond.answer query'⟩

theorem agree_of_bothProbed (device : Device) (options : Options) :
    Script.Agree device.node.Offers
      (fun query => ∀ id force, query = .connector id force -> device.Wanted options id)
      (device.BothProbed options) device.source device.source := by
  intro state state' query hboth hpermitted
  refine ⟨?_, device.node.offers_answer state query, hboth.after query query⟩
  rcases query.connector_or with ⟨id, force, rfl⟩ | hother
  · exact hboth.connector (hpermitted id force rfl) force force
  · exact Node.answer_eq_of_aspect hboth.1 hother

end BothProbed

/-- Once all that a report asks for is probed, it makes no difference whether it forces probes. -/
theorem regardless_of_probed {now : DeviceState} (options : Options)
    (hprobed : ∀ id, device.Wanted options id -> device.node.Probed now id) (sink : Sink) :
    ((Report.script { options with current := true }).run
        device.source now sink).regardless =
      ((Report.script { options with current := false }).run
        device.source now sink).regardless := by
  have hnow : device.BothProbed options now now :=
    ⟨rfl, fun id hwanted => ⟨hprobed id hwanted, hprobed id hwanted⟩⟩
  have hasks := device.script_asks_wanted { options with current := true }
  have hforce : ∀ state state' id force force', device.BothProbed options state state' ->
      (∀ other force'', Query.connector id force = .connector other force'' ->
        device.Wanted options other) ->
      (device.source.answer state (.connector id force)).1 =
          (device.source.answer state' (.connector id force')).1 ∧
        device.node.Offers (.connector id force)
          (device.source.answer state (.connector id force)).1 ∧
        device.BothProbed options (device.source.answer state (.connector id force)).2
          (device.source.answer state' (.connector id force')).2 :=
    fun state state' id force force' hboth hpermitted =>
      ⟨hboth.connector (hpermitted id force rfl) force force', trivial, hboth.after _ _⟩
  exact (Report.reforced_script options).regardless_run_eq
    (device.agree_of_bothProbed options) hforce hasks hnow sink

/-- A report that no write ends has asked for all connectors listed. -/
theorem mem_queries_of_listed {now : DeviceState} {sink : Sink}
    (hconnectors : options.connectors = true) (hforced : options.current = false)
    (hwritten : ∀ cause,
      ((Report.script options).run device.source now sink).outcome ≠ .error (.write cause))
    (hends : ((Report.script options).run device.source now sink).outcome ≠ .error .endless)
    {id : UInt32} (hlists : device.node.Lists id) :
    .connector id true ∈ ((Report.script options).run device.source now sink).queries := by
  obtain ⟨hlisting, hid⟩ := hlists
  have hanswer : device.source.answer now .resources = (.ok device.node.listing, now) := by
    simp [source, Node.answer, hlisting]
  have hshows : options.shows .connectors = true := hconnectors
  have hasked := Report.question_mem_queries hanswer hshows hid
  have hquestion : Category.connectors.question options id = .connector id true := by
    simp [Category.question, hforced]
  rw [hquestion] at hasked
  cases hwrite : (sink.write
      (Event.written ((Report.script options).course device.source now).events)).1 with
  | some failure =>
      have houtcome := (Report.run_of_refused hwrite).1
      obtain rfl | ⟨cause, rfl⟩ := Sink.write_failure_cases hwrite
      · exact absurd houtcome hends
      · exact absurd houtcome (hwritten cause)
  | none =>
      rw [Run.queries, (Report.run_of_taken hwrite).1]
      exact hasked

/-- A report that shows no connectors leaves the device as it was. -/
theorem report_idle (hconnectors : options.connectors = false) (now : DeviceState) (sink : Sink) :
    (device.call now (.report options sink)).2 = now := by
  have hasks := device.script_asks_wanted options
  have hstep : ∀ state query, state = now ->
      (∀ id force, query = .connector id force -> device.Wanted options id) ->
      device.node.Offers query (device.source.answer state query).1 ∧
        (device.source.answer state query).2 = now := by
    intro state query hstate hpermitted
    refine ⟨device.node.offers_answer state query, ?_⟩
    rw [← hstate]
    apply device.node.answer_idle
    rintro id force rfl
    have hshows := (hpermitted id force rfl).1
    rw [hconnectors] at hshows
    exact Bool.false_ne_true hshows
  exact Script.Asks.keeps_run hstep hasks rfl sink

/--
As long as nothing forces a probe, reports over a device are reports over the card that has every
connector in its last known state, if that tells a mode.  A report that forces probes settles the
connectors that it asks for: from then on they are answered for as found by probing, whoever asks
and in whatever manner, so that the next report is the same with and without force.  That all listed
connectors are asked for is certain unless a write fails or never ends.  Reports that show no
connectors are not noticed.
-/
theorem probing_settles_connectors (device : Device) (start : DeviceState) :
    (start.probed = [] -> ∀ calls options sink, (∀ call ∈ calls, call.IsGentle) ->
      (options.connectors = true -> options.current = true) ->
      let now := device.after start calls
      let card := device.node.card { aspect := now.aspect } false
      let run := (Report.script options).run device.source now sink
      run.seen = ((Report.script options).run (card.source []) 0 sink).seen ∧
        ∀ id states, Node.fetch device.node.connectors id = .ok states ->
          states.lastKnown.modes ≠ [] ->
            (∀ force, card.answer (.connector id force) =
              .ok (states.lastKnown.snapshot now.aspect)) ∧
            ∀ exchange ∈ run.exchanges, exchange.OfConnector fun other answer =>
              other = id -> answer = .ok (states.lastKnown.snapshot now.aspect)) ∧
      (∀ calls options sink, options.connectors = true -> options.current = false ->
        let forced := (Report.script options).run device.source (device.after start calls) sink
        (∀ id, .connector id true ∈ forced.queries -> ∀ later,
          let last := device.after start (calls ++ .report options sink :: later)
          let probed := (Node.fetch device.node.connectors id).map fun states =>
            states.probed.snapshot last.aspect
          (∀ force, (device.node.answer last (.connector id force)).1 = probed) ∧
            ∀ options' sink', ∀ exchange ∈
              ((Report.script options').run device.source last sink').exchanges,
              exchange.OfConnector fun other answer => other = id -> answer = probed) ∧
        (∀ later (options' : Options) sink',
          (options'.connectors = true -> ∀ id, device.node.Lists id ->
            .connector id true ∈ forced.queries) ->
          let last := device.after start (calls ++ .report options sink :: later)
          ((Report.script { options' with current := true }).run device.source last
              sink').regardless =
            ((Report.script { options' with current := false }).run device.source last
              sink').regardless) ∧
        ((∀ cause, forced.outcome ≠ .error (.write cause)) -> forced.outcome ≠ .error .endless ->
          ∀ id, device.node.Lists id -> .connector id true ∈ forced.queries)) ∧
      ∀ calls options sink later, options.connectors = false ->
        device.Unnoticed start calls (.report options sink) later := by
  refine ⟨?_, ?_, ?_⟩
  · intro hstart calls options sink hcalls hgentle now card run
    have huntouched := device.untouched_after hstart hcalls
    obtain ⟨hseen, hanswers⟩ := run_of_untouched huntouched hgentle sink
    refine ⟨hseen, fun id states hstates hmodes => ?_⟩
    have hcard := fun force => Node.answer_card_of_modes hstates hmodes now.aspect force
    refine ⟨hcard, fun exchange hexchange => ?_⟩
    have hanswer := hanswers exchange hexchange
    obtain ⟨query, answer⟩ := exchange
    cases query with
    | connector other force =>
        rintro rfl
        exact hanswer.trans (hcard force)
    | resources | encoder | crtc | framebuffer | property | blob => trivial
  · intro calls options sink hconnectors hforced forced
    have hlast : ∀ later, device.after start (calls ++ .report options sink :: later) =
        device.after forced.state later :=
      fun later => device.after_append start calls (.report options sink :: later)
    have hprobed : ∀ id later, .connector id true ∈ forced.queries ->
        device.node.Probed (device.after forced.state later) id :=
      fun id later hasked => probed_after (probed_of_mem_queries options _ sink hasked) later
    refine ⟨fun id hasked later => ?_, fun later options' sink' hall => ?_,
      fun hwritten hends id hlists =>
        mem_queries_of_listed hconnectors hforced hwritten hends hlists⟩
    · dsimp only
      rw [hlast]
      have hid := hprobed id later hasked
      exact ⟨hid.connector_eq, fun options' sink' => ofConnector_of_probed hid options' sink'⟩
    · dsimp only
      rw [hlast]
      have hwanted : ∀ id, device.Wanted options' id ->
          device.node.Probed (device.after forced.state later) id :=
        fun id hwanted => hprobed id later (hall hwanted.1 id hwanted.2)
      exact regardless_of_probed options' hwanted sink'
  · intro calls options sink later hconnectors
    exact unnoticed_of_idle (report_idle hconnectors _ sink) later

/-- A connector that is listed twice and known by another mode than is found by probing. -/
theorem probing_of_connector_listed_twice :
    let states : ConnectorStates := ⟨{ modes := [{ clock := 2 }] }, { modes := [{ clock := 1 }] }⟩
    let device : Device :=
      ⟨"/dev/dri/card0",
        { listing := { connectors := [7, 7] }, connectors := Table.ofList [(7, .ok states)] }⟩
    let gentle : Options := { connectors := true, modes := true, current := true }
    let forcing : Options := { connectors := true, modes := true }
    let calls : List Call := [.report gentle Sink.unlimited]
    let now := device.after {} calls
    let forced := (Report.script forcing).run device.source now Sink.unlimited
    let last := device.after {} (calls ++ [.report forcing Sink.unlimited])
    (∀ exchange ∈ ((Report.script gentle).run device.source now Sink.unlimited).exchanges,
        exchange.OfConnector fun other answer =>
          other = 7 -> answer = .ok (states.lastKnown.snapshot now.aspect)) ∧
      .connector 7 true ∈ forced.queries ∧
      (device.node.answer last (.connector 7 false)).1 =
        .ok (states.probed.snapshot last.aspect) ∧
      ((Report.script gentle).run device.source last Sink.unlimited).regardless =
        ((Report.script forcing).run device.source last Sink.unlimited).regardless ∧
      device.Unnoticed {} calls (.report { encoders := true } Sink.unlimited)
        [.ask (.connector 7 false)] := by
  intro states device gentle forcing calls now forced last
  obtain ⟨hcurrent, hsettled, hidle⟩ := probing_settles_connectors device {}
  have hcalls : ∀ call ∈ calls, call.IsGentle := by
    intro call hcall
    rw [List.mem_singleton.mp hcall]
    exact fun _ => rfl
  have hknown := (hcurrent rfl calls gentle Sink.unlimited hcalls fun _ => rfl).2 7 states rfl
    (by decide)
  obtain ⟨hprobed, hregardless, hall⟩ := hsettled calls forcing Sink.unlimited rfl rfl
  have houtcome : forced.outcome = .ok () :=
    (Script.run_unlimited device.source (Report.script forcing) now).1
  have hasked : ∀ id, device.node.Lists id -> .connector id true ∈ forced.queries :=
    hall (fun cause hcause => absurd (houtcome.symm.trans hcause) (by simp))
      fun hendless => absurd (houtcome.symm.trans hendless) (by simp)
  have hseven : .connector 7 true ∈ forced.queries := hasked 7 ⟨rfl, List.mem_cons_self⟩
  exact ⟨hknown.2, hseven, (hprobed 7 hseven []).1 false,
    hregardless [] gentle Sink.unlimited fun _ => hasked, hidle calls _ _ _ rfl⟩

end Device

end Kernel

end DisplayInventory
