import DisplayInventory.Proofs.Kernel.Mirror

/-!
# Ids of blobs

A value is the id of a blob in all of its sixty-four bits, but the kernel is told only the lower
half of it.  An id that fits into the lower half reads the blob that has it, or none.  A run that
asks for no other ids depends on no other blobs: whatever else the kernel holds, the run is the
same.  An id that does not fit reads the blob of another one.
-/

namespace DisplayInventory

namespace Kernel

theorem toNat_kernelBlobId (id : UInt64) : (kernelBlobId id).toNat = id.toNat % 0x100000000 :=
  UInt64.toNat_mod id 0x100000000

theorem kernelBlobId_of_lt {id : UInt64} (hfits : id.toNat < 0x100000000) :
    kernelBlobId id = id := by
  apply UInt64.toNat_inj.mp
  rw [toNat_kernelBlobId, Nat.mod_eq_of_lt hfits]

theorem Node.fetch_eq_ok {κ α : Type} [DecidableEq κ] {table : Table κ (Except Int α)} {key : κ}
    {object : α} : fetch table key = .ok object ↔ table.find? key = some (.ok object) := by
  unfold fetch
  cases table.find? key with
  | none => simp [IoError.missing]
  | some held => cases held <;> simp

namespace Device

variable (device : Device)

def withBlobs (blobs : Table UInt64 (Except Int (List UInt8))) : Device :=
  { device with node := { device.node with blobs } }

variable {device} {blobs : Table UInt64 (Except Int (List UInt8))} {α : Type}

theorem answer_withBlobs {query : Query}
    (hsame : ∀ id, query = .blob id ->
      id.toNat < 0x100000000 ∧ blobs.find? id = device.node.blobs.find? id) (state : DeviceState) :
    (device.withBlobs blobs).source.answer state query = device.source.answer state query := by
  cases query with
  | blob id =>
      obtain ⟨hfits, hfind⟩ := hsame id rfl
      simp only [source, withBlobs, Node.answer, Node.fetch, kernelBlobId_of_lt hfits, hfind]
  | resources | connector | encoder | crtc | framebuffer | property => rfl

theorem run_withBlobs {script : Script α} {state : DeviceState} {sink : Sink}
    (hsame : ∀ id, .blob id ∈ (script.run device.source state sink).queries ->
      id.toNat < 0x100000000 ∧ blobs.find? id = device.node.blobs.find? id) :
    script.run (device.withBlobs blobs).source state sink = script.run device.source state sink :=
  Script.run_eq_of_queries fun _ hquery =>
    answer_withBlobs fun id hid => hsame id (hid ▸ hquery)

end Device

end Kernel

namespace Edid

variable {State : Type} {source : Source State} {connector : Connector}

theorem findProperty_run {props : List UInt32} {state : State} {sink : Sink} {id : UInt32}
    (hfound : ((findProperty props).run source state sink).outcome = .ok (some id)) :
    ∃ property, isEdid property = true ∧
      ⟨.property id, .ok property⟩ ∈ ((findProperty props).run source state sink).exchanges := by
  induction props generalizing state with
  | nil => exact absurd hfound nofun
  | cons first rest ih =>
      rw [findProperty, Script.run] at hfound ⊢
      cases hanswer : (source.answer state (.property first)).1 with
      | error cause =>
          simp only [hanswer] at hfound ⊢
          obtain ⟨property, hedid, hmem⟩ := ih hfound
          exact ⟨property, hedid, List.mem_cons_of_mem _ hmem⟩
      | ok property =>
          simp only [hanswer] at hfound ⊢
          cases hedid : isEdid property with
          | true =>
              simp only [hedid, if_true] at hfound
              cases hfound
              exact ⟨property, hedid, List.mem_cons_self⟩
          | false =>
              simp only [hedid] at hfound ⊢
              obtain ⟨other, hother, hmem⟩ := ih hfound
              exact ⟨other, hother, List.mem_cons_of_mem _ hmem⟩

def afterSearch (connector : Connector) (found : Option UInt32) : Script Unit :=
  match blobId? connector found with
  | none => .done ()
  | some id =>
      .ask (.blob id) fun answer =>
        match answer with
        | .ok bytes => dump id bytes
        | .error cause =>
            .log (Notice.edidMissing id cause)
              (Script.line (Text.field 15 "edid" ("error getting blob " ++ Text.decimal id.toNat)))

theorem script_eq_bind (connector : Connector) :
    script connector = (findProperty connector.props).bind (afterSearch connector) := by
  refine congrArg (Script.bind _) (funext fun found => ?_)
  rw [afterSearch]
  cases blobId? connector found with
  | none => rfl
  | some id =>
      refine congrArg (Script.ask _) (funext fun answer => ?_)
      cases answer <;> rfl

theorem afterSearch_walks (connector : Connector) (found : Option UInt32) :
    (afterSearch connector found).Walks (fun _ _ => True)
      fun query => ∃ id, blobId? connector found = some id ∧ query = .blob id := by
  rw [afterSearch]
  cases hid : blobId? connector found with
  | none => trivial
  | some id =>
      refine ⟨⟨id, rfl, rfl⟩, fun answer _ => ?_⟩
      cases answer with
      | ok bytes => exact dump_walks id bytes
      | error cause => trivial

/-- The one blob that is asked for has the value of a property for identification data as its id. -/
theorem blob_of_mem_queries {state : State} {sink : Sink} {id : UInt64}
    (hasked : .blob id ∈ ((script connector).run source state sink).queries) :
    id ≠ 0 ∧ ∃ held property, Property.isEdid property = true ∧
      ⟨.property held, .ok property⟩ ∈ ((script connector).run source state sink).exchanges ∧
      connector.propValue? held = some id := by
  have hsearch : (findProperty connector.props).Walks (fun _ _ => True)
      fun query => query ≠ .blob id := findProperty_walks fun _ _ => nofun
  have hsilent : .blob id ∉ ((findProperty connector.props).run source state sink).queries :=
    fun hmem => hsearch.asks.permitted_of_mem_queries (fun _ _ => trivial) state sink hmem rfl
  rw [script_eq_bind, Script.run_bind, Run.andThen] at hasked ⊢
  cases houtcome : ((findProperty connector.props).run source state sink).outcome with
  | error failure =>
      simp only [houtcome] at hasked
      exact absurd hasked hsilent
  | ok found =>
      simp only [houtcome, Run.queries, List.map_append, List.mem_append] at hasked ⊢
      have hafter := (afterSearch_walks connector found).asks
      obtain ⟨value, hvalue, hsame⟩ :=
        hafter.permitted_of_mem_queries (fun _ _ => trivial) _ _ (hasked.resolve_left hsilent)
      cases hsame
      unfold blobId? at hvalue
      cases hheld : found.bind connector.propValue? with
      | none => simp [hheld] at hvalue
      | some told =>
          obtain ⟨held, hfound, htold⟩ := Option.bind_eq_some_iff.mp hheld
          obtain ⟨hzero, rfl⟩ : told ≠ 0 ∧ told = id := by simpa [hheld] using hvalue
          obtain ⟨property, hedid, hmem⟩ := findProperty_run (hfound ▸ houtcome)
          exact ⟨hzero, held, property, hedid, .inl hmem, htold⟩

end Edid

/-- Whether the ids of all blobs that are asked for in a run are told to the kernel in full. -/
def Run.IdsFit {State α : Type} (run : Run State α) : Prop :=
  ∀ id, .blob id ∈ run.queries -> id.toNat < 0x100000000

namespace Kernel.Device

/--
A report over a device asks for blobs whose ids are values that the device tells of connectors.
-/
theorem told_of_mem_queries {device : Device} {options : Options} {state : DeviceState}
    {sink : Sink} {id : UInt64}
    (hasked : .blob id ∈ ((Report.script options).run device.source state sink).queries) :
    ∃ state connectorId connector,
      (device.node.connector state connectorId (!options.current)).1 = .ok connector ∧
        id ∈ connector.propValues := by
  have hpossible : ∀ state query, ∃ state', (device.source.answer state query).1 =
      (device.source.answer state' query).1 := fun state _ => ⟨state, rfl⟩
  let told : Query -> Prop
    | .blob id => ∃ state connectorId connector,
        (device.node.connector state connectorId (!options.current)).1 = .ok connector ∧
          id ∈ connector.propValues
    | _ => True
  have hdetails : Report.PermitsDetails options
      (fun query answer => ∃ state, answer = (device.source.answer state query).1) told := by
    intro connectorId connector hfound
    obtain ⟨state', hanswer⟩ := hfound
    exact ⟨fun _ _ => trivial, fun value hvalue =>
      ⟨state', connectorId, connector, hanswer.symm, hvalue⟩⟩
  have hquestion : ∀ (category : Category) id, told (category.question options id) := by
    intro category id
    cases category <;> trivial
  have hasks := Report.script_asks hdetails hquestion trivial
  exact hasks.permitted_of_mem_queries hpossible state sink hasked

theorem mem_fitValues {count : Nat} {values : List UInt64} {value : UInt64}
    (hmem : value ∈ fitValues count values) : value ∈ values ∨ value = 0 := by
  rcases List.mem_append.mp hmem with htaken | hfilled
  · exact .inl (List.mem_of_mem_take htaken)
  · exact .inr (List.eq_of_mem_replicate hfilled)

/-- If the values of the connectors are small, in every report all ids of blobs fit. -/
theorem idsFit_of_values {device : Device}
    (hvalues : ∀ id states, Node.fetch device.node.connectors id = .ok states ->
      ∀ value ∈ states.probed.propValues ++ states.lastKnown.propValues, value.toNat < 0x100000000)
    (options : Options) (state : DeviceState) (sink : Sink) :
    ((Report.script options).run device.source state sink).IdsFit := by
  intro id hasked
  obtain ⟨now, connectorId, connector, hanswer, hvalue⟩ := told_of_mem_queries hasked
  rw [Node.connector] at hanswer
  cases hfetch : Node.fetch device.node.connectors connectorId with
  | error cause =>
      simp [hfetch] at hanswer
  | ok states =>
      have hsmall : ∀ found : Bool,
          id ∈ (if found then states.probed else states.lastKnown).propValues ->
            id.toNat < 0x100000000 := by
        intro found hheld
        cases found with
        | true => exact hvalues connectorId states hfetch id (List.mem_append_left _ hheld)
        | false => exact hvalues connectorId states hfetch id (List.mem_append_right _ hheld)
      rw [hfetch] at hanswer
      cases hanswer
      rcases mem_fitValues hvalue with hheld | hzero
      · exact hsmall _ hheld
      · rw [hzero]
        decide

theorem answered_of_mem_exchanges {device : Device} {α : Type} {script : Script α}
    {state : DeviceState} {sink : Sink} {exchange : Exchange}
    (hmem : exchange ∈ (script.run device.source state sink).exchanges) :
    ∃ state, exchange.answer = (device.source.answer state exchange.query).1 := by
  let answered (exchange : Exchange) (_ : DeviceState) : Prop :=
    ∃ state, exchange.answer = (device.source.answer state exchange.query).1
  have hmark : ∀ state query, answered ⟨query, (device.source.answer state query).1⟩
      (device.source.answer state query).2 := fun state _ => ⟨state, rfl⟩
  have hkeep : ∀ exchange state query, answered exchange state ->
      answered exchange (device.source.answer state query).2 := fun _ _ _ hanswered => hanswered
  exact script.run_marks hmark hkeep state sink exchange hmem

/--
An id of a blob that is told to the kernel in full reads the blob that has it, or none; others read
what an id with the same lower half reads.  So a report in which all ids fit gets the blobs of these
ids, which are values of its connectors, and is the same whatever other blobs there are; and so are
a property with its value and the identification data of a connector.  These are looked for under an
id that is not zero, so a fitting one never asks the kernel for blob zero.
-/
theorem blobs_by_id (device : Device) (state : DeviceState) (sink : Sink) :
    (∀ id id' : UInt64, id.toNat % 0x100000000 = id'.toNat % 0x100000000 ->
      (device.node.answer state (.blob id)).1 = (device.node.answer state (.blob id')).1) ∧
    (∀ id : UInt64, id.toNat < 0x100000000 -> ∀ bytes,
      (device.node.answer state (.blob id)).1 = .ok bytes ↔
        device.node.blobs.find? id = some (.ok bytes)) ∧
    (∀ options,
      let run := (Report.script options).run device.source state sink
      run.IdsFit ->
        (∀ id bytes, ⟨.blob id, .ok bytes⟩ ∈ run.exchanges ->
          device.node.blobs.find? id = some (.ok bytes)) ∧
        (∀ id, .blob id ∈ run.queries -> ∃ state' connectorId connector,
          (device.node.connector state' connectorId (!options.current)).1 = .ok connector ∧
            id ∈ connector.propValues) ∧
        ∀ blobs, (∀ id, .blob id ∈ run.queries -> blobs.find? id = device.node.blobs.find? id) ->
          (Report.script options).run (device.withBlobs blobs).source state sink = run) ∧
    (∀ (property : Property) (value : UInt64), value.toNat < 0x100000000 ->
      ∀ blobs, blobs.find? value = device.node.blobs.find? value ->
        (property.script value).run (device.withBlobs blobs).source state sink =
          (property.script value).run device.source state sink) ∧
    ∀ connector : Connector,
      let run := (Edid.script connector).run device.source state sink
      (∀ id, .blob id ∈ run.queries ->
        id ≠ 0 ∧ (id.toNat < 0x100000000 -> kernelBlobId id ≠ 0) ∧
          ∃ held property, property.isEdid = true ∧
            ⟨.property held, .ok property⟩ ∈ run.exchanges ∧
            connector.propValue? held = some id) ∧
      (run.IdsFit ->
        ∀ blobs, (∀ id, .blob id ∈ run.queries -> blobs.find? id = device.node.blobs.find? id) ->
          (Edid.script connector).run (device.withBlobs blobs).source state sink = run) := by
  have hread : ∀ (state : DeviceState) (id : UInt64), id.toNat < 0x100000000 -> ∀ bytes,
      (device.node.answer state (.blob id)).1 = .ok bytes ↔
        device.node.blobs.find? id = some (.ok bytes) := by
    intro state id hfits bytes
    rw [Node.answer, kernelBlobId_of_lt hfits]
    exact Node.fetch_eq_ok
  refine ⟨?_, hread state, ?_, ?_, ?_⟩
  · intro id id' hsame
    have hkernel : kernelBlobId id = kernelBlobId id' := by
      rw [← UInt64.toNat_inj, toNat_kernelBlobId, toNat_kernelBlobId, hsame]
    exact congrArg (Node.fetch device.node.blobs) hkernel
  · intro options run hfit
    refine ⟨?_, fun id hasked => told_of_mem_queries hasked, ?_⟩
    · intro id bytes hmem
      obtain ⟨state', hanswer⟩ := answered_of_mem_exchanges hmem
      have hasked : .blob id ∈ run.queries := List.mem_map.mpr ⟨_, hmem, rfl⟩
      exact (hread state' id (hfit id hasked) bytes).mp hanswer.symm
    · exact fun blobs hblobs => run_withBlobs fun id hasked => ⟨hfit id hasked, hblobs id hasked⟩
  · intro property value hfits blobs hblobs
    have hwalks : (property.script value).Walks (fun _ _ => True) fun query =>
        query = .blob value := property.script_walks rfl
    refine run_withBlobs fun id hasked => ?_
    have hsame := hwalks.asks.permitted_of_mem_queries (fun _ _ => trivial) state sink hasked
    cases hsame
    exact ⟨hfits, hblobs⟩
  · intro connector run
    refine ⟨?_, fun hfit blobs hblobs =>
      run_withBlobs fun id hasked => ⟨hfit id hasked, hblobs id hasked⟩⟩
    intro id hasked
    obtain ⟨hzero, hvalue⟩ := Edid.blob_of_mem_queries hasked
    refine ⟨hzero, ?_, hvalue⟩
    intro hfits
    rwa [kernelBlobId_of_lt hfits]

/-- A device whose one connector has a value for its identification data, and two blobs. -/
def ofEdidValue (value : UInt64) : Device :=
  let connector : RawConnector := { props := [1], propValues := [value] }
  ⟨"/dev/dri/card0",
    { listing := { connectors := [7] }
      connectors := Table.ofList [(7, .ok ⟨connector, connector⟩)]
      properties := Table.ofList [(1, .ok { name := [69, 68, 73, 68], flags := Property.blobFlag })]
      blobs := Table.ofList [(0, .ok [7]), (100, .ok [97, 98, 99])] }⟩

theorem blob_of_small_id :
    let device := ofEdidValue 100
    let run := (Report.script { connectors := true, edid := true }).run device.source {}
      Sink.unlimited
    run.IdsFit ∧ .blob 100 ∈ run.queries ∧
      ∀ id bytes, ⟨.blob id, .ok bytes⟩ ∈ run.exchanges ->
        device.node.blobs.find? id = some (.ok bytes) := by
  intro device run
  have hfit : run.IdsFit := by
    refine idsFit_of_values ?_ _ _ _
    intro id states hfetch value hvalue
    have hmem := Table.mem_of_findIn (Node.fetch_eq_ok.mp hfetch)
    obtain ⟨-, hstates⟩ := Prod.mk.inj (List.mem_singleton.mp hmem)
    cases hstates
    have hsame : value = 100 := by simpa using hvalue
    exact hsame ▸ (by decide : (100 : UInt64).toNat < 0x100000000)
  have hasked : .blob 100 ∈ run.queries := Script.mem_queries_of_course (by decide +kernel)
  obtain ⟨-, -, hreport, -, -⟩ := blobs_by_id device {} Sink.unlimited
  exact ⟨hfit, hasked, (hreport _ hfit).1⟩

/--
A report that asks for a blob with a large id gets another one, while the kernel holds none with
that id; and it may ask the kernel for blob zero, although the value is not zero.
-/
theorem blob_of_large_id :
    (let device := ofEdidValue 4294967396
      let run := (Report.script { connectors := true, edid := true }).run device.source {}
        Sink.unlimited
      device.node.blobs.find? 4294967396 = none ∧ .blob 4294967396 ∈ run.queries ∧
        ∀ answer, ⟨.blob 4294967396, answer⟩ ∈ run.exchanges -> answer = .ok [97, 98, 99]) ∧
    (let device := ofEdidValue 4294967296
      let run := (Report.script { connectors := true, edid := true }).run device.source {}
        Sink.unlimited
      .blob 4294967296 ∈ run.queries ∧ kernelBlobId 4294967296 = 0) := by
  refine ⟨⟨by decide, ?_, ?_⟩, ?_, by decide⟩
  · exact Script.mem_queries_of_course (by decide +kernel)
  · intro answer hmem
    obtain ⟨state, hanswer⟩ := answered_of_mem_exchanges hmem
    exact hanswer
  · exact Script.mem_queries_of_course (by decide +kernel)

end Kernel.Device

end DisplayInventory
