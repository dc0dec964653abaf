import DisplayInventory.Proofs.Report.Sections
import DisplayInventory.Proofs.Script.Ledger

/-!
# The log of a report

A report leaves one record for every question that fails, unless it is the one for the lists, and
one for identification data without a base block.  A property or a blob is asked for either in
search of the identification data or to show it, and which of these it was is told by the exchanges
before: a search begins behind a connector that was found, and goes on until a property holds the
blob's id.
-/

namespace DisplayInventory

def Record.refusal (level : Level) (target : LogTarget) (subject : String) (id : Nat)
    (cause : IoError) : Record :=
  ⟨level, target,
    "Unable to get " ++ subject ++ " " ++ Text.decimal id ++ ": " ++ cause.message⟩

/-- The record of a question that failed, asked in a search for identification data or not. -/
def Query.refusal? (searching : Bool) (cause : IoError) : Query -> Option Record
  | .resources => none
  | .connector id _ => some (.refusal .warn .report "connector" id.toNat cause)
  | .encoder id => some (.refusal .warn .report "encoder" id.toNat cause)
  | .crtc id => some (.refusal .warn .report "crtc" id.toNat cause)
  | .framebuffer id => some (.refusal .warn .report "fb" id.toNat cause)
  | .property id =>
      some (.refusal .debug (if searching then .edid else .report) "property" id.toNat cause)
  | .blob id =>
      if searching then some (.refusal .warn .edid "EDID blob" id.toNat cause)
      else some (.refusal .warn .property "blob" id.toNat cause)

def Edid.lacksBlock (bytes : List UInt8) : Bool :=
  bytes.length < 128 ||
    !([0x00, 0xFF, 0xFF, 0xFF, 0xFF, 0xFF, 0xFF, 0x00] : List UInt8).isPrefixOf bytes

namespace Exchange

def notices (searching : Bool) : Exchange -> List Record
  | ⟨query, .error cause⟩ => (query.refusal? searching cause).toList
  | ⟨.blob id, .ok bytes⟩ =>
      if searching && Edid.lacksBlock bytes then
        [⟨.debug, .edid,
          if bytes.length < 128 then
            "EDID blob " ++ Text.decimal id.toNat ++ " is shorter than a base block"
          else
            "Unable to parse EDID blob " ++ Text.decimal id.toNat ++ ": Position(Tag, [" ++
              String.intercalate ", " (bytes.map fun byte => Text.decimal byte.toNat) ++ "])"⟩]
      else []
  | _ => []

def isRefused : Exchange -> Bool
  | ⟨.resources, _⟩ => false
  | ⟨_, .error _⟩ => true
  | ⟨_, .ok _⟩ => false

/-- Whether a blob was had that does not begin with a base block. -/
def lacksBlock : Exchange -> Bool
  | ⟨.blob _, .ok bytes⟩ => Edid.lacksBlock bytes
  | _ => false

theorem length_notices (searching : Bool) (exchange : Exchange) :
    (exchange.notices searching).length =
      (if exchange.isRefused then 1 else 0) +
        if searching && exchange.lacksBlock then 1 else 0 := by
  obtain ⟨query, answer⟩ := exchange
  cases query <;> cases answer <;> cases searching <;>
    simp [notices, isRefused, lacksBlock, Query.refusal?, apply_ite]

theorem length_flatMap_notices {σ : Type} (searching : σ -> Bool) (asked : List (σ × Exchange)) :
    (asked.flatMap fun entry => entry.2.notices (searching entry.1)).length =
      asked.countP (isRefused ∘ Prod.snd) +
        asked.countP fun entry => searching entry.1 && entry.2.lacksBlock := by
  induction asked with
  | nil => rfl
  | cons entry rest ih =>
      simp only [List.flatMap_cons, List.length_append, length_notices, ih, List.countP_cons,
        Function.comp_apply]
      omega

/-- Every record is kept by one of the three parts of a report, under the name of that part. -/
theorem target_of_mem_notices {searching : Bool} {exchange : Exchange} {record : Record}
    (hrecord : record ∈ exchange.notices searching) :
    (record.target, record.target.path) ∈
      [(LogTarget.report, "kmsprint_report"), (.edid, "kmsprint_report::edid"),
       (.property, "kmsprint_report::property")] := by
  obtain ⟨query, answer⟩ := exchange
  cases answer with
  | error cause =>
      have hrefusal : query.refusal? searching cause = some record :=
        Option.mem_toList.mp hrecord
      cases query <;> cases searching <;> cases hrefusal <;>
        simp [Record.refusal, LogTarget.path]
  | ok object =>
      cases query with
      | blob id =>
          simp only [notices] at hrecord
          split at hrecord
          · obtain rfl := List.mem_singleton.mp hrecord
            simp [LogTarget.path]
          · exact absurd hrecord List.not_mem_nil
      | resources | connector | encoder | crtc | framebuffer | property =>
          exact absurd hrecord List.not_mem_nil

end Exchange

/-- Where the search for the identification data of a connector is. -/
inductive Search where
  | resting
  /-- The next question is for a property; `rest` are still left then. -/
  | looking (connector : Connector) (rest : List UInt32)
  /-- The next question is for the blob. -/
  | fetching

namespace Search

def among (connector : Connector) : List UInt32 -> Search
  | [] => .resting
  | _ :: rest => .looking connector rest

def found (connector : Connector) (property : Option UInt32) : Search :=
  if (property.bind connector.propValue?).any (· != 0) then .fetching else .resting

theorem found_eq (connector : Connector) (property : Option UInt32) :
    found connector property =
      if (Edid.blobId? connector property).isSome then .fetching else .resting := by
  unfold found Edid.blobId?
  cases property.bind connector.propValue? with
  | none => rfl
  | some value => by_cases hzero : value = 0 <;> simp [hzero]

def after (options : Options) : Search -> Exchange -> Search
  | _, ⟨.connector _ _, .ok connector⟩ =>
      if options.edid then among connector connector.props else .resting
  | .looking connector rest, ⟨.property id, .ok property⟩ =>
      if property.isEdid then found connector (some id) else among connector rest
  | .looking connector rest, ⟨.property _, .error _⟩ => among connector rest
  | _, _ => .resting

def underWay : Search -> Bool
  | .resting => false
  | _ => true

/-- The records of a report, by the search that is under way. -/
def ledger (options : Options) : Ledger Search where
  after := after options
  due := fun search exchange => exchange.notices search.underWay

end Search

/-! ## Identification data -/

variable {options : Options}

abbrev Script.Noticed {α : Type} (options : Options) (searching : Search -> Prop)
    (ends : α -> Search) (script : Script α) (search : Search) (owed : List Record) : Prop :=
  script.TrueTo (Search.ledger options) searching ends search owed

theorem Edid.findProperty_noticed (connector : Connector) (props : List UInt32) :
    (findProperty props).Noticed options (fun search => search.underWay = true)
      (Search.found connector) (Search.among connector props) [] := by
  induction props with
  | nil => exact ⟨rfl, rfl⟩
  | cons id rest ih =>
      refine ⟨rfl, rfl, fun answer => ?_⟩
      cases answer with
      | error cause => exact ⟨[], rfl, ih⟩
      | ok property =>
          simp only [Search.ledger, Search.among, Search.after]
          cases hedid : isEdid property with
          | true =>
              rw [isEdid_eq] at hedid
              simp only [hedid, if_true]
              exact ⟨rfl, rfl⟩
          | false =>
              rw [isEdid_eq] at hedid
              simp only [hedid]
              exact ih

theorem Edid.dump_noticed (id : UInt64) (bytes : List UInt8) :
    (dump id bytes).Noticed options (fun search => search.underWay = true)
      (fun _ => .resting) .resting (Exchange.notices true ⟨.blob id, .ok bytes⟩) := by
  have hdue : Exchange.notices true ⟨.blob id, .ok bytes⟩ =
      ((read bytes).notice? id bytes).toList := by
    have hlacks : lacksBlock bytes = (bytes.length < 128 || !signature.isPrefixOf bytes) := rfl
    unfold Exchange.notices read blockLength
    by_cases hshort : bytes.length < 128
    · simp [hlacks, hshort, Reading.notice?, Notice.edidShort]
    · cases hsignature : signature.isPrefixOf bytes <;>
        simp [hlacks, hshort, hsignature, Reading.notice?, Notice.edidUnreadable]
  rw [hdue]
  unfold dump
  cases (read bytes).notice? id bytes with
  | none => exact ⟨rfl, rfl⟩
  | some record => exact ⟨[], rfl, rfl, rfl⟩

/-- In a search only the identification data are asked for. -/
theorem Edid.script_noticed (connector : Connector) :
    (script connector).Noticed options (fun search => search.underWay = true)
      (fun _ => .resting) (Search.among connector connector.props) [] := by
  refine (findProperty_noticed connector connector.props).bind fun property => ?_
  rw [Search.found_eq]
  cases hid : blobId? connector property with
  | none => exact ⟨rfl, rfl⟩
  | some id =>
      refine ⟨rfl, rfl, fun answer => ?_⟩
      cases answer with
      | ok bytes => exact dump_noticed id bytes
      | error cause => exact ⟨[], rfl, rfl, rfl⟩

/-! ## Properties -/

theorem Property.script_noticed (property : Property) (value : UInt64) :
    (property.script value).Noticed options (fun search => search.underWay = false)
      (fun _ => .resting) .resting [] := by
  unfold Property.script
  split
  · refine ⟨rfl, rfl, fun answer => ?_⟩
    cases answer with
    | ok bytes => exact ⟨rfl, rfl⟩
    | error cause => exact ⟨[], rfl, rfl, rfl⟩
  · exact ⟨rfl, rfl⟩

theorem Connector.propertyScript_noticed (id : UInt32) (value : UInt64) :
    (propertyScript id value).Noticed options (fun search => search.underWay = false)
      (fun _ => .resting) .resting [] := by
  refine ⟨rfl, rfl, fun answer => ?_⟩
  cases answer with
  | error cause => exact ⟨[], rfl, rfl, rfl⟩
  | ok property => exact property.script_noticed value

theorem Connector.propertiesScript_noticed (connector : Connector) :
    connector.propertiesScript.Noticed options (fun search => search.underWay = false)
      (fun _ => .resting) .resting [] :=
  (Script.TrueTo.compositional _).each fun _ _ => propertyScript_noticed _ _

/-! ## The whole report -/

namespace Report

theorem connector_noticed (id : UInt32) (connector : Connector) :
    (connector.script options id).Noticed options (fun _ => True) (fun _ => .resting)
      (if options.edid then Search.among connector connector.props else .resting) [] := by
  have hproperties : (Script.onlyIf options.fullProps connector.propertiesScript).Noticed
      options (fun _ => True) (fun _ => .resting) .resting [] :=
    (Script.TrueTo.compositional _).onlyIf fun _ =>
      connector.propertiesScript_noticed.mono fun _ _ => trivial
  have hdetails : ((Script.onlyIf options.edid (Edid.script connector)).bind fun _ =>
      Script.onlyIf options.fullProps connector.propertiesScript).Noticed options
        (fun _ => True) (fun _ => .resting)
        (if options.edid then Search.among connector connector.props else .resting) [] := by
    cases options.edid with
    | false => exact hproperties
    | true =>
        refine Script.TrueTo.bind ?_ fun _ => hproperties
        exact (Edid.script_noticed connector).mono fun _ _ => trivial
  have hmodes : ∀ search, (Script.onlyIf options.modes (Script.text (Text.unlines
      (connector.modeLines options.modeStyle)))).Noticed options (fun _ => True)
        (fun _ => search) search [] :=
    fun search => (Script.TrueTo.compositional search).onlyIf fun _ => ⟨rfl, rfl⟩
  exact (hmodes _).bind fun _ => hdetails

theorem block_noticed (category : Category) (id : UInt32) :
    (block options category id).Noticed options (fun _ => True) (fun _ => .resting)
      .resting [] := by
  cases category with
  | connectors =>
      refine ⟨rfl, trivial, fun answer => ?_⟩
      cases answer with
      | ok connector => exact connector_noticed id connector
      | error cause => exact ⟨[], rfl, rfl, rfl⟩
  | encoders | crtcs | framebuffers =>
      refine ⟨rfl, trivial, fun answer => ?_⟩
      cases answer with
      | ok object => exact ⟨rfl, rfl⟩
      | error cause => exact ⟨[], rfl, rfl, rfl⟩

theorem script_noticed (options : Options) :
    (script options).Noticed options (fun _ => True) (fun _ => .resting) .resting [] := by
  refine ⟨rfl, trivial, fun answer => ?_⟩
  cases answer with
  | error cause => rfl
  | ok listing =>
      have hbody : (body options listing).Noticed options (fun _ => True) (fun _ => .resting)
          .resting [] := by
        rw [body_eq_parts]
        exact parts_of_blocks (Script.TrueTo.compositional _) ⟨rfl, rfl⟩
          fun category id _ => block_noticed category id
      exact hbody.bind fun _ => ⟨rfl, rfl⟩

/-- A search is under way as long as the identification data are asked for, and no longer. -/
theorem underWay_of_mem_track {State : Type} (options : Options) (connector : Connector)
    (source : Source State) (state : State) (sink : Sink) :
    let ledger := Search.ledger options
    let search := (Edid.script connector).run source state sink.unhindered
    let shown := connector.propertiesScript.run source state sink.unhindered
    (∀ entry ∈ ledger.track (.among connector connector.props) search.exchanges,
        entry.1.underWay = true) ∧
      ∀ entry ∈ ledger.track .resting shown.exchanges, entry.1.underWay = false := by
  intro ledger search shown
  have hsearch := (Script.run_unhindered source (Edid.script connector) state sink).2.1
  have hshown := (Script.run_unhindered source connector.propertiesScript state sink).2.1
  refine ⟨?_, ?_⟩
  · rw [hsearch]
    exact ((Edid.script_noticed connector).course source state).2
  · rw [hshown]
    exact (connector.propertiesScript_noticed.course source state).2

/--
The records of a report are those of its exchanges, in their order: one for every question that
failed, unless it is the one for the lists, and one for every blob fetched in a search that does not
begin with a base block.  They are kept by the report and its two parts, and by nothing else.  The
questions of a search are those of the script for identification data.
-/
theorem run_records_eq_notices {State : Type} (options : Options) (source : Source State)
    (state : State) (sink : Sink) :
    let run := (script options).run source state sink.unhindered
    let asked := (Search.ledger options).track .resting run.exchanges
    run.records = (asked.flatMap fun entry => entry.2.notices entry.1.underWay) ∧
      asked.map Prod.snd = run.exchanges ∧
      run.records.length = run.exchanges.countP Exchange.isRefused +
        (asked.countP fun entry => entry.1.underWay && entry.2.lacksBlock) ∧
      (∀ record ∈ run.records, (record.target, record.target.path) ∈
        [(LogTarget.report, "kmsprint_report"), (.edid, "kmsprint_report::edid"),
         (.property, "kmsprint_report::property")]) ∧
      ∀ (connector : Connector) (within : State),
        let search := (Edid.script connector).run source within sink.unhindered
        let shown := connector.propertiesScript.run source within sink.unhindered
        (∀ entry ∈ (Search.ledger options).track (.among connector connector.props)
            search.exchanges, entry.1.underWay = true) ∧
          ∀ entry ∈ (Search.ledger options).track .resting shown.exchanges,
            entry.1.underWay = false := by
  intro run asked
  obtain ⟨-, hexchanges, hrecords, -⟩ :=
    Script.run_unhindered source (script options) state sink
  have hnotices : run.records =
      asked.flatMap fun entry => entry.2.notices entry.1.underWay := by
    refine hrecords.trans (((script_noticed options).course source state).1.trans ?_)
    rw [List.nil_append, ← hexchanges]
    rfl
  have hasked : asked.map Prod.snd = run.exchanges := Ledger.map_snd_track _ _ _
  have hlength : run.records.length = run.exchanges.countP Exchange.isRefused +
      asked.countP fun entry => entry.1.underWay && entry.2.lacksBlock := by
    rw [hnotices, ← hasked, List.countP_map]
    exact Exchange.length_flatMap_notices Search.underWay asked
  refine ⟨hnotices, hasked, hlength, fun record hrecord => ?_, fun connector within =>
    underWay_of_mem_track options connector source within sink⟩
  rw [hnotices] at hrecord
  obtain ⟨entry, -, hentry⟩ := List.mem_flatMap.mp hrecord
  exact Exchange.target_of_mem_notices hentry

/-- A property that is asked for in vain in the search and once more to be shown. -/
example :
    let plug : Connector := { props := [2], propValues := [100] }
    let cause : IoError := .general .timedOut
    (Search.ledger { edid := true, fullProps := true }).records .resting
      [⟨.connector 30 true, .ok plug⟩, ⟨.property 2, .error cause⟩, ⟨.property 2, .error cause⟩] =
      [.refusal .debug .edid "property" 2 cause, .refusal .debug .report "property" 2 cause] :=
  rfl

end Report

end DisplayInventory
