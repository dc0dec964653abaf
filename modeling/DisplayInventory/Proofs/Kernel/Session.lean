import DisplayInventory.Kernel.Device
import DisplayInventory.Proofs.Report.Sections

/-!
# Sessions with a device

An open device takes one call after the other: it tells its driver, it is requested to report aspect
ratios, it answers single questions, and whole reports are made over it.  What one call keeps, a
session of any length keeps.  Two devices that agree question by question stay related through the
same fetches, whatever else is called for between them.
-/

namespace DisplayInventory.Kernel

inductive Call where
  | driverName
  /-- A request for aspect ratios. -/
  | enableAspect
  | ask (query : Query)
  | report (options : Options) (sink : Sink)

/-- What a call comes back with. -/
inductive Reply where
  | named (name : Except IoError String)
  | enabled (granted : Except IoError Unit)
  | answered (exchange : Exchange)
  | reported (run : Run Unit Unit)

def Call.fetches : Call -> Bool
  | .ask _ | .report _ _ => true
  | .driverName | .enableAspect => false

/-- Whether a call asks permitted questions only. -/
def Call.Asks (permitted : Query -> Prop) : Call -> Prop
  | .ask query => permitted query
  | .report options _ => (Report.script options).Asks (fun _ _ => True) permitted
  | .driverName | .enableAspect => True

theorem Call.asks_anything (call : Call) : call.Asks fun _ => True := by
  cases call with
  | driverName | enableAspect | ask => trivial
  | report options sink => exact Script.asks_anything _

def Reply.exchanges : Reply -> List Exchange
  | .answered exchange => [exchange]
  | .reported run => run.exchanges
  | .named _ | .enabled _ => []

/-- No question changes whether aspect ratios are reported. -/
theorem Node.aspect_answer (node : Node) (state : DeviceState) (query : Query) :
    (node.answer state query).2.aspect = state.aspect := by
  cases query with
  | resources =>
      simp only [answer]
      cases node.listingFailure <;> rfl
  | connector id force =>
      simp only [answer, connector]
      cases fetch node.connectors id <;> rfl
  | encoder | crtc | framebuffer | property | blob => rfl

namespace Device

def call (device : Device) (state : DeviceState) : Call -> Reply × DeviceState
  | .driverName => (.named device.driverName, state)
  | .enableAspect =>
      (.enabled (device.enableAspect state).1, (device.enableAspect state).2)
  | .ask query =>
      (.answered ⟨query, (device.node.answer state query).1⟩, (device.node.answer state query).2)
  | .report options sink =>
      (.reported ((Report.script options).run device.source state sink).seen,
        ((Report.script options).run device.source state sink).state)

def after (device : Device) : DeviceState -> List Call -> DeviceState
  | state, [] => state
  | state, call :: rest => after device (device.call state call).2 rest

def replies (device : Device) : DeviceState -> List Call -> List Reply
  | _, [] => []
  | state, call :: rest =>
      (device.call state call).1 :: replies device (device.call state call).2 rest

section Sessions

variable (device : Device) (start : DeviceState)

@[simp] theorem length_replies (calls : List Call) :
    (device.replies start calls).length = calls.length := by
  induction calls generalizing start with
  | nil => rfl
  | cons call rest ih => simp [replies, ih]

theorem after_append (first second : List Call) :
    device.after start (first ++ second) = device.after (device.after start first) second := by
  induction first generalizing start with
  | nil => rfl
  | cons call rest ih => exact ih (device.call start call).2

theorem replies_append (first second : List Call) :
    device.replies start (first ++ second) =
      device.replies start first ++ device.replies (device.after start first) second := by
  induction first generalizing start with
  | nil => rfl
  | cons call rest ih =>
      exact congrArg ((device.call start call).1 :: ·) (ih (device.call start call).2)

/--
Whether a call put between others changes nothing in the replies to these, nor in what is left.
-/
def Unnoticed (before : List Call) (call : Call) (later : List Call) : Prop :=
  (∃ first reply second,
    first.length = before.length ∧
      device.replies start (before ++ later) = first ++ second ∧
      device.replies start (before ++ call :: later) = first ++ reply :: second) ∧
    device.after start (before ++ call :: later) = device.after start (before ++ later)

variable {device start}

/-- A call that leaves the device as it was is not noticed. -/
theorem unnoticed_of_idle {before : List Call} {call : Call}
    (hidle : (device.call (device.after start before) call).2 = device.after start before)
    (later : List Call) : device.Unnoticed start before call later := by
  constructor
  · refine ⟨_, (device.call (device.after start before) call).1, _,
      device.length_replies start before, device.replies_append start before later, ?_⟩
    rw [replies_append, replies, hidle]
  · rw [after_append, after_append, after, hidle]

end Sessions

/-! ## What sessions keep -/

section Upkeep

variable {device : Device} {keeps : DeviceState -> Prop} {permitted : Query -> Prop}

theorem call_keeps {good : Exchange -> Prop}
    (hanswer : ∀ state query, keeps state -> permitted query ->
      good ⟨query, (device.node.answer state query).1⟩ ∧
        keeps (device.node.answer state query).2)
    (hrequest : ∀ state, keeps state -> keeps (device.enableAspect state).2) {call : Call}
    (hasks : call.Asks permitted) {state : DeviceState} (hkeeps : keeps state) :
    keeps (device.call state call).2 ∧
      ∀ exchange ∈ (device.call state call).1.exchanges, good exchange := by
  cases call with
  | driverName => exact ⟨hkeeps, fun exchange hmem => absurd hmem List.not_mem_nil⟩
  | enableAspect => exact ⟨hrequest state hkeeps, fun exchange hmem => absurd hmem List.not_mem_nil⟩
  | ask query =>
      obtain ⟨hgood, hafter⟩ := hanswer state query hkeeps hasks
      refine ⟨hafter, fun exchange hmem => ?_⟩
      rw [List.mem_singleton.mp hmem]
      exact hgood
  | report options sink =>
      have hstep : ∀ state query, keeps state -> permitted query ->
          True ∧ good ⟨query, (device.source.answer state query).1⟩ ∧
            keeps (device.source.answer state query).2 :=
        fun state query hkept hpermitted => ⟨trivial, hanswer state query hkept hpermitted⟩
      exact Script.Asks.run_keeps hstep hasks hkeeps sink

/-- What every permitted question and every request keeps, a session of permitted calls keeps. -/
theorem session_keeps {good : Exchange -> Prop}
    (hanswer : ∀ state query, keeps state -> permitted query ->
      good ⟨query, (device.node.answer state query).1⟩ ∧
        keeps (device.node.answer state query).2)
    (hrequest : ∀ state, keeps state -> keeps (device.enableAspect state).2) {calls : List Call}
    (hasks : ∀ call ∈ calls, call.Asks permitted) {start : DeviceState} (hkeeps : keeps start) :
    keeps (device.after start calls) ∧
      ∀ reply ∈ device.replies start calls, ∀ exchange ∈ reply.exchanges, good exchange := by
  induction calls generalizing start with
  | nil => exact ⟨hkeeps, fun reply hreply => absurd hreply List.not_mem_nil⟩
  | cons call rest ih =>
      obtain ⟨hafter, hgood⟩ : keeps (device.call start call).2 ∧
          ∀ exchange ∈ (device.call start call).1.exchanges, good exchange :=
        call_keeps hanswer hrequest (hasks call List.mem_cons_self) hkeeps
      have hrest : ∀ other ∈ rest, other.Asks permitted :=
        fun other hother => hasks other (List.mem_cons_of_mem call hother)
      obtain ⟨hlast, hlater⟩ := ih hrest hafter
      refine ⟨hlast, fun reply hreply => ?_⟩
      rcases List.mem_cons.mp hreply with rfl | hrest
      · exact hgood
      · exact hlater reply hrest

/-- What every permitted question and every request keeps, is kept by permitted calls. -/
theorem after_keeps
    (hanswer : ∀ state query, keeps state -> permitted query ->
      keeps (device.node.answer state query).2)
    (hrequest : ∀ state, keeps state -> keeps (device.enableAspect state).2) {calls : List Call}
    (hasks : ∀ call ∈ calls, call.Asks permitted) {start : DeviceState} (hkeeps : keeps start) :
    keeps (device.after start calls) := by
  have hsession : keeps (device.after start calls) ∧
      ∀ reply ∈ device.replies start calls, ∀ exchange ∈ reply.exchanges, True :=
    session_keeps
      (fun state query hkept hpermitted => ⟨trivial, hanswer state query hkept hpermitted⟩)
      hrequest hasks hkeeps
  exact hsession.1

end Upkeep

/-! ## Sessions with two devices -/

section Related

variable {device other : Device} {related : DeviceState -> DeviceState -> Prop}

theorem related_call
    (hagree : Script.Agree (fun _ _ => True) (fun _ => True) related device.source other.source)
    {call : Call} (hfetches : call.fetches = true) {state state' : DeviceState}
    (hrelated : related state state') :
    (device.call state call).1 = (other.call state' call).1 ∧
      related (device.call state call).2 (other.call state' call).2 := by
  cases call with
  | driverName | enableAspect => exact absurd hfetches (by decide)
  | ask query =>
      obtain ⟨hanswer, -, hlater⟩ := hagree state state' query hrelated trivial
      exact ⟨congrArg (fun answer => Reply.answered ⟨query, answer⟩) hanswer, hlater⟩
  | report options sink =>
      obtain ⟨hseen, hlater⟩ :=
        (Script.asks_anything (Report.script options)).seen_run_eq hagree hrelated sink
      exact ⟨congrArg Reply.reported hseen, hlater⟩

/--
A device stays related to one that it agrees with and that gets its fetches only, if nothing else
that it gets breaks the relation.
-/
theorem related_after
    (hagree : Script.Agree (fun _ _ => True) (fun _ => True) related device.source other.source)
    {calls : List Call}
    (hidle : ∀ call ∈ calls, call.fetches = false -> ∀ state state', related state state' ->
      related (device.call state call).2 state')
    {start start' : DeviceState} (hrelated : related start start') :
    related (device.after start calls) (other.after start' (calls.filter Call.fetches)) := by
  induction calls generalizing start start' with
  | nil => exact hrelated
  | cons call rest ih =>
      have hrest := fun later hlater => hidle later (List.mem_cons_of_mem call hlater)
      cases hfetches : call.fetches with
      | true =>
          rw [List.filter_cons_of_pos hfetches]
          exact ih hrest (related_call hagree hfetches hrelated).2
      | false =>
          rw [List.filter_cons_of_neg (by simp [hfetches])]
          exact ih hrest (hidle call List.mem_cons_self hfetches start start' hrelated)

end Related

end Device

end DisplayInventory.Kernel
