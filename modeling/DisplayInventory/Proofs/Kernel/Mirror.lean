import DisplayInventory.Card.Memory
import DisplayInventory.Proofs.Kernel.Conversion
import DisplayInventory.Proofs.Report.Sections

/-!
# The card behind a device

For a report an open device is a card in memory.  The card lists what the node lists and holds the
snapshots of its objects; of a connector it holds the one state in which the device answers for it.
That this state does not change while reports run is the invariant of the comparison: a report asks
for all connectors in the same manner, and a connector that is probed on the way answers as it would
have answered before.
-/

namespace DisplayInventory

namespace Table

variable {κ α β : Type} [DecidableEq κ]

def map (change : κ -> α -> β) (table : Table κ α) : Table κ β :=
  ⟨table.entries.map fun entry => (entry.1, change entry.1 entry.2)⟩

theorem findIn_map (change : κ -> α -> β) (key : κ) (entries : List (κ × α)) :
    findIn key (entries.map fun entry => (entry.1, change entry.1 entry.2)) =
      (findIn key entries).map (change key) := by
  induction entries with
  | nil => rfl
  | cons entry rest ih =>
      by_cases hkey : entry.1 = key
      · simp [findIn, hkey]
      · simpa [findIn, hkey] using ih

theorem find?_map (change : κ -> α -> β) (table : Table κ α) (key : κ) :
    (table.map change).find? key = (table.find? key).map (change key) :=
  findIn_map change key table.entries

theorem mem_of_findIn {key : κ} {value : α} {entries : List (κ × α)}
    (hfind : findIn key entries = some value) : (key, value) ∈ entries := by
  induction entries with
  | nil => simp [findIn] at hfind
  | cons entry rest ih =>
      by_cases hkey : entry.1 = key
      · simp only [findIn, hkey, if_true, Option.some.injEq] at hfind
        rw [← hkey, ← hfind]
        exact List.mem_cons_self
      · simp only [findIn, hkey, if_false] at hfind
        exact List.mem_cons_of_mem entry (ih hfind)

def tabulate (value : κ -> α) (keys : List κ) : Table κ α :=
  ⟨keys.map fun key => (key, value key)⟩

theorem find?_tabulate (value : κ -> α) {key : κ} {keys : List κ} (hmem : key ∈ keys) :
    (tabulate value keys).find? key = some (value key) := by
  unfold tabulate find?
  induction keys with
  | nil => exact absurd hmem List.not_mem_nil
  | cons first rest ih =>
      by_cases hkey : first = key
      · simp [findIn, hkey]
      · obtain rfl | hrest := List.mem_cons.mp hmem
        · exact absurd rfl hkey
        · simpa [findIn, hkey] using ih hrest

end Table

namespace Kernel

def given {α β : Type} (snapshot : α -> β) : Except Int α -> Except IoError β
  | .ok object => .ok (snapshot object)
  | .error errno => .error (.system errno)

/--
The state in which a connector is answered for, from a state of the device, if every connector is
asked for in the same manner: as found by probing if that is forced, if nothing but probing tells a
mode, or if the connector has been probed.
-/
def DeviceState.answered (state : DeviceState) (force : Bool) (id : UInt32)
    (states : ConnectorStates) : RawConnector :=
  if force ∨ states.lastKnown.modes = [] ∨ id ∈ state.probed then states.probed
  else states.lastKnown

namespace Node

def cardConnectors (node : Node) (state : DeviceState) (force : Bool) :
    Table UInt32 (Except IoError Connector) :=
  node.connectors.map fun id =>
    given fun states => (state.answered force id states).snapshot state.aspect

/-- What is given for the id of a blob: the kernel is told only the lower half of it. -/
def cardBlob (node : Node) (id : UInt64) : Except IoError (List UInt8) :=
  match node.blobs.find? (id % 0x100000000) with
  | some object => given (fun bytes => bytes) object
  | none => .error (.system 2)

/-- The values of all connectors of a card, among them the ids of blobs that these tell. -/
def toldValues (connectors : Table UInt32 (Except IoError Connector)) : List UInt64 :=
  connectors.entries.flatMap fun entry =>
    match entry.2 with
    | .ok connector => connector.propValues
    | .error _ => []

def card (node : Node) (state : DeviceState) (force : Bool) : Card where
  listing := node.listing
  listingFailure := node.listingFailure.map .system
  connectors := node.cardConnectors state force
  encoders := node.encoders.map fun _ => given fun encoder => encoder
  crtcs := node.crtcs.map fun _ => given (RawCrtc.snapshot state.aspect)
  framebuffers := node.framebuffers.map fun _ => given fun framebuffer => framebuffer
  properties := node.properties.map fun id => given (RawProperty.snapshot id)
  blobs := Table.tabulate node.cardBlob (toldValues (node.cardConnectors state force))
  absent := .system 2

theorem mem_toldValues {connectors : Table UInt32 (Except IoError Connector)} {id : UInt32}
    {connector : Connector} {value : UInt64} (hfind : connectors.find? id = some (.ok connector))
    (hmem : value ∈ connector.propValues) : value ∈ toldValues connectors :=
  List.mem_flatMap.mpr ⟨(id, .ok connector), Table.mem_of_findIn hfind, hmem⟩

/-! ## The same answers -/

theorem fetch_map {α β : Type} (table : Table UInt32 (Except Int α)) (snapshot : UInt32 -> α -> β)
    (id : UInt32) :
    Card.fetch (.system 2) (table.map fun id => given (snapshot id)) id =
      (fetch table id).map (snapshot id) := by
  unfold Card.fetch fetch
  rw [Table.find?_map]
  cases table.find? id with
  | none => rfl
  | some object => cases object <;> rfl

theorem fetch_map_self {α : Type} (table : Table UInt32 (Except Int α)) (id : UInt32) :
    Card.fetch (.system 2) (table.map fun _ => given fun object => object) id =
      fetch table id := by
  rw [fetch_map table fun _ object => object]
  cases fetch table id <;> rfl

theorem answered_of_probes {states : ConnectorStates} {force : Bool}
    (hprobes : probes states force = true) (state : DeviceState) (id : UInt32) :
    state.answered force id states = states.probed := by
  have hforced : force = true ∨ states.lastKnown.modes = [] := by simpa [probes] using hprobes
  exact if_pos (or_assoc.mp (.inl hforced))

theorem answered_of_not_probes {states : ConnectorStates} {force : Bool}
    (hprobes : ¬probes states force = true) (state : DeviceState) (id : UInt32) :
    state.answered force id states =
      if id ∈ state.probed then states.probed else states.lastKnown := by
  obtain ⟨hforce, hmodes⟩ : force = false ∧ states.lastKnown.modes ≠ [] := by
    simpa [probes] using hprobes
  simp [DeviceState.answered, hforce, hmodes]

/-- A connector that the kernel holds is answered for in one state. -/
theorem connector_of_found {node : Node} {id : UInt32} {states : ConnectorStates}
    (hfetch : fetch node.connectors id = .ok states) (state : DeviceState) (force : Bool) :
    (node.connector state id force).1 =
      .ok ((state.answered force id states).snapshot state.aspect) := by
  simp only [connector, hfetch, RawConnector.report_eq_snapshot]
  refine congrArg (fun raw : RawConnector => Except.ok (raw.snapshot state.aspect)) ?_
  by_cases hprobes : probes states force = true
  · simp [answered_of_probes hprobes, hprobes]
  · simp [answered_of_not_probes hprobes, hprobes]

theorem connector_eq_map (node : Node) (state : DeviceState) (id : UInt32) (force : Bool) :
    (node.connector state id force).1 =
      (fetch node.connectors id).map fun states =>
        (state.answered force id states).snapshot state.aspect := by
  cases hfetch : fetch node.connectors id with
  | error cause => simp [connector, hfetch, Except.map]
  | ok states => exact connector_of_found hfetch state force

/--
What does not change while every connector is asked for in the same manner: whether aspect ratios
are reported, and the state in which each connector is answered for.
-/
structure Settled (node : Node) (force : Bool) (start now : DeviceState) : Prop where
  aspect : now.aspect = start.aspect
  answered : ∀ id states, fetch node.connectors id = .ok states ->
    now.answered force id states = start.answered force id states

/-- To ask for a connector in the same manner changes no answer. -/
theorem Settled.connector {node : Node} {force : Bool} {start now : DeviceState}
    (hsettled : Settled node force start now) (id : UInt32) :
    Settled node force start (node.connector now id force).2 := by
  unfold Node.connector
  cases hfetch : fetch node.connectors id with
  | error cause => exact hsettled
  | ok states =>
      dsimp only
      split
      · rename_i hprobes
        refine ⟨hsettled.aspect, fun other states' hother => ?_⟩
        rw [← hsettled.answered other states' hother]
        -- No other connector is answered for differently after a probe, and this one had to be
        -- probed by every request before.
        by_cases hsame : other = id
        · subst hsame
          have hstates : states' = states := Except.ok.inj (hother.symm.trans hfetch)
          rw [hstates, answered_of_probes hprobes, answered_of_probes hprobes]
        · simp [DeviceState.answered, hsame]
      · exact hsettled

/-- The questions of reports that ask for connectors in one manner, and for told blobs only. -/
def Answerable (node : Node) (start : DeviceState) (force : Bool) : Query -> Prop
  | .connector _ probe => probe = force
  | .blob id => id ∈ toldValues (node.cardConnectors start force)
  | _ => True

/-- To such a question a settled device gives the answer of its card. -/
theorem answer_eq_card {node : Node} {start now : DeviceState} {force : Bool}
    (hsettled : Settled node force start now) {query : Query}
    (hanswerable : Answerable node start force query) :
    (node.answer now query).1 = (node.card start force).answer query := by
  cases query with
  | resources =>
      simp only [answer, card, Card.answer]
      cases node.listingFailure <;> rfl
  | connector id probe =>
      have hprobe : probe = force := hanswerable
      subst hprobe
      simp only [answer, card, Card.answer, cardConnectors, fetch_map]
      cases hfetch : fetch node.connectors id with
      | error cause => simp [connector, hfetch, Except.map]
      | ok states =>
          rw [connector_of_found hfetch, hsettled.answered id states hfetch, hsettled.aspect]
          rfl
  | encoder id => exact (fetch_map_self node.encoders id).symm
  | crtc id =>
      have hreport : RawCrtc.report now.aspect = RawCrtc.snapshot start.aspect := by
        rw [hsettled.aspect]
        exact funext (RawCrtc.report_eq_snapshot start.aspect)
      simp only [answer, card, Card.answer, fetch_map, hreport]
  | framebuffer id => exact (fetch_map_self node.framebuffers id).symm
  | property id =>
      have hreport : RawProperty.report id = RawProperty.snapshot id :=
        funext (RawProperty.report_eq_snapshot id)
      simp only [answer, card, Card.answer, fetch_map, hreport]
  | blob id =>
      have htold : id ∈ toldValues (node.cardConnectors start force) := hanswerable
      simp only [answer, card, Card.answer, Card.fetch, Table.find?_tabulate _ htold, cardBlob,
        fetch, kernelBlobId]
      cases node.blobs.find? (id % 0x100000000) with
      | none => rfl
      | some object => cases object <;> rfl

theorem Settled.answer {node : Node} {start now : DeviceState} {force : Bool}
    (hsettled : Settled node force start now) {query : Query}
    (hanswerable : Answerable node start force query) :
    Settled node force start (node.answer now query).2 := by
  cases query with
  | resources =>
      simp only [Node.answer]
      cases node.listingFailure <;> exact hsettled
  | connector id probe =>
      have hprobe : probe = force := hanswerable
      subst hprobe
      exact hsettled.connector id
  | encoder id => exact hsettled
  | crtc id => exact hsettled
  | framebuffer id => exact hsettled
  | property id => exact hsettled
  | blob id => exact hsettled

end Node

namespace Device

theorem agree_card (device : Device) (start : DeviceState) (force : Bool) :
    Script.Agree (fun query answer => answer = (device.node.card start force).answer query)
      (Node.Answerable device.node start force)
      (fun now (_ : Nat) => Node.Settled device.node force start now)
      device.source ((device.node.card start force).source []) := by
  intro now _ query hsettled hanswerable
  have hanswer := Node.answer_eq_card hsettled hanswerable
  exact ⟨hanswer, hanswer, hsettled.answer hanswerable⟩

/-- The details of connectors that the card gives are among what it is asked for. -/
theorem permitsDetails_card (device : Device) (start : DeviceState) (force : Bool)
    (options : Options) :
    Report.PermitsDetails options
      (fun query answer => answer = (device.node.card start force).answer query)
      (Node.Answerable device.node start force) := by
  intro id connector hfound
  refine ⟨fun _ _ => trivial, fun value hvalue => ?_⟩
  have hfetch : Card.fetch (.system 2) (device.node.cardConnectors start force) id =
      .ok connector := hfound.symm
  unfold Card.fetch at hfetch
  split at hfetch
  · rename_i object hfind
    rw [hfetch] at hfind
    exact Node.mem_toldValues hfind hvalue
  · exact absurd hfetch (by simp)

/--
Reports over an open device, whatever was asked of it before, and reports over the card made of the
objects behind it can not be told apart: on every sink and any number of times they end alike, ask
the same questions with the same answers, leave the same records and write the same text.
-/
theorem seen_runs_eq_card (device : Device) (state : DeviceState) (options : Options)
    (times : Nat) (sink : Sink) :
    ((Report.script options).runs device.source times state sink).map Run.seen =
      ((Report.script options).runs
        ((device.node.card state (!options.current)).source []) times 0 sink).map Run.seen := by
  have hquestion : ∀ (category : Category) id,
      Node.Answerable device.node state (!options.current) (category.question options id) := by
    intro category id
    cases category <;> trivial
  have hasks := Report.script_asks (device.permitsDetails_card state (!options.current) options)
    hquestion trivial
  exact hasks.map_seen_runs_eq (device.agree_card state (!options.current)) times
    ⟨rfl, fun _ _ _ => rfl⟩ sink

end Device

end Kernel

end DisplayInventory
