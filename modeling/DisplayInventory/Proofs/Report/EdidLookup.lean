import DisplayInventory.Proofs.Report.Sections
import DisplayInventory.Proofs.Script.Steady

/-!
# Two walks over the properties of a connector

The identification data of a connector is looked up by ids: the first id whose property fits is
kept, and its value is looked up from the start of the list again.  The full list of the properties
goes by places, and pairs every id with the value beside it.  Where the answers depend on nothing
but the question both come to the same pair: an earlier place of the kept id would have fitted, too.
-/

namespace DisplayInventory

/-! ## Ids and values by their places -/

section Places

variable {κ β : Type}

/-- The first pair whose key fits stands at the first place that fits, if that has a value. -/
theorem find?_zip_eq_getElem?_findIdx? (fits : κ -> Bool) (keys : List κ) (values : List β) :
    (keys.zip values).find? (fun entry => fits entry.1) =
      (keys.findIdx? fits).bind fun place => (keys.zip values)[place]? := by
  induction keys generalizing values with
  | nil => rfl
  | cons key rest ih =>
      cases values with
      | nil => cases (key :: rest).findIdx? fits <;> rfl
      | cons value values =>
          cases hfits : fits key with
          | true => simp [List.findIdx?_cons, hfits]
          | false =>
              rw [List.zip_cons_cons, List.find?_cons_of_neg (by simp [hfits]), ih,
                List.findIdx?_cons, hfits]
              cases rest.findIdx? fits <;> rfl

theorem map_snd_find?_zip (fits : κ -> Bool) (keys : List κ) (values : List β) :
    ((keys.zip values).find? fun entry => fits entry.1).map Prod.snd =
      (keys.findIdx? fits).bind fun place => values[place]? := by
  rw [find?_zip_eq_getElem?_findIdx?]
  cases hplace : keys.findIdx? fits with
  | none => rfl
  | some place =>
      have hbound := (List.findIdx?_eq_some_iff_getElem.mp hplace).1
      rw [Option.bind_some, Option.bind_some, List.zip, List.getElem?_zipWith,
        List.getElem?_eq_getElem hbound]
      cases values[place]? <;> rfl

theorem flatMap_filterMap {γ : Type} (keep : κ -> Option β) (image : β -> List γ) (items : List κ) :
    (items.filterMap keep).flatMap image =
      items.flatMap fun item => ((keep item).map image).getD [] := by
  induction items with
  | nil => rfl
  | cons item rest ih => cases hkeep : keep item <;> simp [hkeep, ih]

end Places

namespace Connector

variable (connector : Connector)

theorem propValue?_eq_find?_zip (id : UInt32) :
    connector.propValue? id =
      ((connector.props.zip connector.propValues).find? fun entry => entry.1 == id).map
        Prod.snd := by
  rw [map_snd_find?_zip (· == id), propValue?]
  cases connector.props.findIdx? (· == id) <;> rfl

/-- The first id that fits has the value at its place: an earlier one like it would fit, too. -/
theorem propValue?_find? (fits : UInt32 -> Bool) :
    (connector.props.find? fits).bind connector.propValue? =
      (connector.props.findIdx? fits).bind fun place => connector.propValues[place]? := by
  cases hplace : connector.props.findIdx? fits with
  | none =>
      have hnone : connector.props.find? fits = none := by
        simpa using List.findIdx?_eq_none_iff.mp hplace
      rw [hnone]
      rfl
  | some place =>
      obtain ⟨hbound, hfits, hbefore⟩ := List.findIdx?_eq_some_iff_getElem.mp hplace
      have hfind : connector.props.find? fits = some connector.props[place] :=
        List.find?_eq_some_iff_getElem.mpr ⟨hfits, place, hbound, rfl, by simpa using hbefore⟩
      have hsame : connector.props.findIdx? (· == connector.props[place]) = some place := by
        refine List.findIdx?_eq_some_iff_getElem.mpr ⟨hbound, beq_self_eq_true _, ?_⟩
        intro earlier hearlier heq
        exact hbefore earlier hearlier (by rwa [eq_of_beq heq])
      rw [hfind]
      simp only [Option.bind_some, propValue?, hsame]

end Connector

/-! ## What is looked up -/

def Property.of? (answers : (query : Query) -> query.Answer) (id : UInt32) : Option Property :=
  (answers (.property id)).toOption

namespace Edid

variable (answers : (query : Query) -> query.Answer)

/-- Whether the property of an id can be had and holds the id of the identification data. -/
def fits (id : UInt32) : Bool :=
  (Property.of? answers id).any Property.isEdid

/-- The first place in a list of ids whose property holds the id of the identification data. -/
def place? (props : List UInt32) : Option Nat :=
  props.findIdx? (fits answers)

/-- The ids up to that place; without one, all of them. -/
def upToPlace (props : List UInt32) : List UInt32 :=
  match place? answers props with
  | some place => props.take (place + 1)
  | none => props

/-- The value at that place, unless it stands for no blob. -/
def placedBlob? (connector : Connector) : Option UInt64 :=
  ((place? answers connector.props).bind fun place => connector.propValues[place]?).filter (· != 0)

variable {answers}

theorem upToPlace_cons_of_fits {id : UInt32} (hfits : fits answers id = true)
    (rest : List UInt32) : upToPlace answers (id :: rest) = [id] := by
  simp [upToPlace, place?, List.findIdx?_cons, hfits]

theorem upToPlace_cons_of_not_fits {id : UInt32} (hfits : fits answers id = false)
    (rest : List UInt32) : upToPlace answers (id :: rest) = id :: upToPlace answers rest := by
  simp only [upToPlace, place?, List.findIdx?_cons, hfits]
  cases rest.findIdx? (fits answers) <;> rfl

theorem run_findProperty_of_fits {id : UInt32} (hfits : fits answers id = true)
    (rest : List UInt32) (sink : Sink) :
    (findProperty (id :: rest)).run (.fixed answers) () sink =
      ⟨.ok (some id), [⟨.property id, answers (.property id)⟩], [], sink, ()⟩ := by
  cases hanswer : answers (.property id) with
  | error cause => simp [fits, Property.of?, hanswer, Except.toOption] at hfits
  | ok property =>
      have hedid : isEdid property = true := by
        simpa [fits, Property.of?, hanswer, Except.toOption, isEdid_eq] using hfits
      simp [findProperty, Script.run, Source.fixed, hanswer, hedid, Run.afterExchange]

/-- Past a property that does not fit the search goes on alike, whether it could be had or not. -/
theorem run_findProperty_of_not_fits {id : UInt32} (hfits : fits answers id = false)
    (rest : List UInt32) (sink : Sink) :
    let search := (findProperty (id :: rest)).run (.fixed answers) () sink
    let later := (findProperty rest).run (.fixed answers) () sink
    search.outcome = later.outcome ∧ search.queries = .property id :: later.queries ∧
      search.sink = later.sink := by
  intro search later
  cases hanswer : answers (.property id) with
  | error cause =>
      have hsearch : search = (later.afterRecord
          (Notice.propertyMissing .edid id cause)).afterExchange ⟨.property id, .error cause⟩ := by
        simp [search, later, findProperty, Script.run, Source.fixed, hanswer]
      rw [hsearch]
      exact ⟨rfl, rfl, rfl⟩
  | ok property =>
      have hedid : isEdid property = false := by
        simpa [fits, Property.of?, hanswer, Except.toOption, isEdid_eq] using hfits
      have hsearch : search = later.afterExchange ⟨.property id, .ok property⟩ := by
        simp [search, later, findProperty, Script.run, Source.fixed, hanswer, hedid]
      rw [hsearch]
      exact ⟨rfl, rfl, rfl⟩

/-- The search asks for the properties up to the first one that fits, and keeps its id. -/
theorem run_findProperty (answers : (query : Query) -> query.Answer) (props : List UInt32)
    (sink : Sink) :
    ((findProperty props).run (.fixed answers) () sink).outcome =
        .ok (props.find? (fits answers)) ∧
      ((findProperty props).run (.fixed answers) () sink).queries =
        (upToPlace answers props).map .property ∧
      ((findProperty props).run (.fixed answers) () sink).sink = sink := by
  induction props with
  | nil => exact ⟨rfl, rfl, rfl⟩
  | cons id rest ih =>
      cases hfits : fits answers id with
      | true =>
          rw [run_findProperty_of_fits hfits, List.find?_cons_of_pos hfits,
            upToPlace_cons_of_fits hfits]
          exact ⟨rfl, rfl, rfl⟩
      | false =>
          obtain ⟨houtcome, hqueries, hsink⟩ := ih
          obtain ⟨houtcome', hqueries', hsink'⟩ := run_findProperty_of_not_fits hfits rest sink
          rw [List.find?_cons_of_neg (by simp [hfits]), upToPlace_cons_of_not_fits hfits]
          refine ⟨houtcome'.trans houtcome, ?_, hsink'.trans hsink⟩
          rw [hqueries', hqueries, List.map_cons]

/-- The value that the kept id has is the value at the place where it was found. -/
theorem blobId?_find? (connector : Connector) :
    blobId? connector (connector.props.find? (fits answers)) = placedBlob? answers connector := by
  rw [blobId?, connector.propValue?_find?, placedBlob?, place?]
  cases (connector.props.findIdx? (fits answers)).bind fun place =>
      connector.propValues[place]? with
  | none => rfl
  | some value => simp [Option.filter_some, ite_not]

/--
After the search the blob of the identification data is asked for, if there is one.  Otherwise
nothing is shown.
-/
theorem run_script (answers : (query : Query) -> query.Answer) (connector : Connector)
    (sink : Sink) :
    ((script connector).run (.fixed answers) () sink).queries =
        (upToPlace answers connector.props).map .property ++
          (placedBlob? answers connector).toList.map .blob ∧
      (placedBlob? answers connector = none ->
        ((script connector).run (.fixed answers) () sink).outcome = .ok () ∧
          ((script connector).run (.fixed answers) () sink).sink = sink) := by
  obtain ⟨houtcome, hqueries, hsink⟩ := run_findProperty answers connector.props sink
  rw [script, Script.bind_eq, Script.run_bind, Run.andThen, houtcome]
  simp only [hsink, blobId?_find?]
  cases placedBlob? answers connector with
  | none =>
      refine ⟨?_, fun _ => ⟨rfl, rfl⟩⟩
      simpa [Run.queries, Script.run] using hqueries
  | some id =>
      refine ⟨?_, fun hnone => absurd hnone (Option.some_ne_none id)⟩
      simp only [Run.queries, List.map_append]
      refine (congrArg (· ++ _) hqueries).trans (congrArg (_ ++ ·) ?_)
      refine Script.queries_run_query (fun answer => ?_) _ _ _
      cases answer with
      | ok bytes => exact (dump_walks id bytes).asks
      | error cause => trivial

def blobLines (answers : (query : Query) -> query.Answer) : Option UInt64 -> List String
  | none => []
  | some id =>
      match answers (.blob id) with
      | .ok bytes => lengthLine bytes :: ((read bytes).lines ++ rowLines bytes)
      | .error _ => [Text.field 15 "edid" ("error getting blob " ++ Text.decimal id.toNat)]

theorem tells_findProperty (answers : (query : Query) -> query.Answer) (props : List UInt32) :
    (findProperty props).Tells answers (props.find? (fits answers))
      ((upToPlace answers props).map .property) [] := by
  obtain ⟨houtcome, hqueries, hsink⟩ := run_findProperty answers props Sink.unlimited
  exact ⟨houtcome, hqueries, congrArg Sink.bytes hsink⟩

theorem tells_dump (id : UInt64) (bytes : List UInt8) :
    (dump id bytes).Tells answers () []
      (lengthLine bytes :: ((read bytes).lines ++ rowLines bytes)) := by
  refine (Script.Tells.line (lengthLine bytes)).bind ?_
  cases (read bytes).notice? id bytes with
  | none => exact Script.Tells.text _
  | some record => exact (Script.Tells.note record).bind (Script.Tells.text _)

theorem tells_script (answers : (query : Query) -> query.Answer) (connector : Connector) :
    (script connector).Tells answers ()
      ((upToPlace answers connector.props).map .property ++
        (placedBlob? answers connector).toList.map .blob)
      (blobLines answers (placedBlob? answers connector)) := by
  rw [← List.nil_append (blobLines answers _)]
  refine (tells_findProperty answers connector.props).bind ?_
  rw [blobId?_find?]
  cases placedBlob? answers connector with
  | none => exact Script.Tells.done ()
  | some id =>
      refine Script.Tells.query ?_
      rw [blobLines]
      cases answers (.blob id) with
      | ok bytes => exact tells_dump id bytes
      | error cause => exact (Script.Tells.note _).bind (Script.Tells.line _)

end Edid

/-! ## What the list of the properties shows -/

structure Connector.Held where
  id : UInt32
  value : UInt64
  property : Property

namespace Connector.Held

def isEdid (held : Held) : Bool :=
  held.property.isEdid

def blob? (held : Held) : Option UInt64 :=
  if held.property.isBlob then some held.value else none

variable (answers : (query : Query) -> query.Answer)

def lines (held : Held) : List String :=
  held.property.descriptionLines ++
    if held.property.isBlob then
      match answers (.blob held.value) with
      | .ok bytes => [Property.blobLine bytes]
      | .error _ => ["error getting blob " ++ Text.decimal held.value.toNat]
    else held.property.valueLines held.value

theorem tells (held : Held) :
    (held.property.script held.value).Tells answers () (held.blob?.toList.map .blob)
      (held.lines answers) := by
  refine (Script.Tells.text held.property.descriptionLines).bind ?_
  rw [blob?]
  cases held.property.isBlob with
  | false => exact Script.Tells.text _
  | true =>
      refine Script.Tells.query ?_
      cases answers (.blob held.value) with
      | ok bytes => exact Script.Tells.line _
      | error cause => exact (Script.Tells.note _).bind (Script.Tells.line _)

end Connector.Held

namespace Connector

variable (answers : (query : Query) -> query.Answer) (connector : Connector)

def held? (entry : UInt32 × UInt64) : Option Held :=
  (Property.of? answers entry.1).map fun property => ⟨entry.1, entry.2, property⟩

/-- The properties of a connector that have a value and can be had, in order. -/
def held : List Held :=
  (connector.props.zip connector.propValues).filterMap (held? answers)

def pairQueries (entry : UInt32 × UInt64) : List Query :=
  .property entry.1 :: ((held? answers entry).bind Held.blob?).toList.map .blob

theorem tells_propertyScript (entry : UInt32 × UInt64) :
    (propertyScript entry.1 entry.2).Tells answers () (pairQueries answers entry)
      (((held? answers entry).map (Held.lines answers)).getD []) := by
  refine Script.Tells.query ?_
  rw [held?, Property.of?]
  cases answers (.property entry.1) with
  | ok property => exact Held.tells answers ⟨entry.1, entry.2, property⟩
  | error cause => exact Script.Tells.note _

/-- The list goes through the pairs by their places, and leaves out what can not be had. -/
theorem tells_propertiesScript :
    connector.propertiesScript.Tells answers ()
      ((connector.props.zip connector.propValues).flatMap (pairQueries answers))
      ((connector.held answers).flatMap (Held.lines answers)) := by
  rw [held, flatMap_filterMap]
  exact Script.Tells.each (tells_propertyScript answers) _

def leadLines (options : Options) (id : UInt32) : List String :=
  connector.summaryLines id ++ if options.modes then connector.modeLines options.modeStyle else []

/-- The block of a connector: what the lookup shows stands before the list of the properties. -/
theorem tells_script (options : Options) (id : UInt32) :
    (connector.script options id).Tells answers ()
      ((if options.edid then
          (Edid.upToPlace answers connector.props).map .property ++
            (Edid.placedBlob? answers connector).toList.map .blob
        else []) ++
        if options.fullProps then
          (connector.props.zip connector.propValues).flatMap (pairQueries answers)
        else [])
      (connector.leadLines options id ++
        ((if options.edid then Edid.blobLines answers (Edid.placedBlob? answers connector)
          else []) ++
          if options.fullProps then (connector.held answers).flatMap (Held.lines answers)
          else [])) := by
  have hdetails : ((Script.onlyIf options.edid (Edid.script connector)).bind fun _ =>
      Script.onlyIf options.fullProps connector.propertiesScript).Tells answers () _ _ :=
    (Script.Tells.onlyIf options.edid (Edid.tells_script answers connector)).bind
      (Script.Tells.onlyIf options.fullProps (connector.tells_propertiesScript answers))
  have hmodes : ((Script.onlyIf options.modes
      (Script.text (Text.unlines (connector.modeLines options.modeStyle)))).bind fun _ =>
        _).Tells answers () _ _ :=
    (Script.Tells.onlyIf options.modes (Script.Tells.text _)).bind hdetails
  have hall : ((Script.text (Text.unlines (connector.summaryLines id))).bind fun _ =>
      _).Tells answers () _ _ := (Script.Tells.text _).bind hmodes
  simp only [ite_self, List.nil_append] at hall
  rw [leadLines, List.append_assoc]
  exact hall

variable {answers}

theorem any_held? (entry : UInt32 × UInt64) :
    (held? answers entry).any Held.isEdid = Edid.fits answers entry.1 := by
  rw [held?, Option.any_map]
  rfl

/-- The first property of the list that fits stands at the place where the search ends. -/
theorem find?_held :
    ((connector.held answers).find? Held.isEdid).map (fun held => (held.id, held.value)) =
      (Edid.place? answers connector.props).bind fun place =>
        (connector.props.zip connector.propValues)[place]? := by
  simp only [held, List.find?_filterMap, any_held?]
  rw [Edid.place?, ← find?_zip_eq_getElem?_findIdx?]
  cases hfind : (connector.props.zip connector.propValues).find? fun entry =>
      Edid.fits answers entry.1 with
  | none => rfl
  | some entry =>
      have hfits := List.find?_some hfind
      obtain ⟨property, hproperty, -⟩ := Option.any_eq_true .. |>.mp hfits
      simp [held?, hproperty]

theorem placedBlob?_eq_find?_held :
    Edid.placedBlob? answers connector =
      (((connector.held answers).find? Held.isEdid).map Held.value).filter (· != 0) := by
  have hvalue : (((connector.held answers).find? Held.isEdid).map fun held =>
      (held.id, held.value)).map Prod.snd = _ := congrArg (Option.map Prod.snd) connector.find?_held
  rw [Edid.place?, ← find?_zip_eq_getElem?_findIdx?, map_snd_find?_zip, Option.map_map] at hvalue
  rw [Edid.placedBlob?, Edid.place?, ← hvalue]
  rfl

theorem Held.blob?_of_isEdid {held : Held} (hedid : held.isEdid = true) :
    held.blob? = some held.value := by
  have hblob : held.property.isBlob = true := (Bool.and_eq_true_iff.mp hedid).2
  rw [blob?, if_pos hblob]

/--
The lookup of the identification data and the list of the properties pair ids and values alike.  The
lookup asks for the properties up to the first place that fits and then for the blob that is the
value at that place, if there is one and it is not zero; otherwise it writes nothing.  The first
property in the list that fits is shown with that very id and value, and its blob is the same.
-/
theorem lookup_agrees_with_list {State : Type} {source : Source State}
    (hsteady : source.Steady answers) (connector : Connector) (state : State) (sink : Sink) :
    let pairs := connector.props.zip connector.propValues
    let place := Edid.place? answers connector.props
    let blob := Edid.placedBlob? answers connector
    let first := (connector.held answers).find? Held.isEdid
    let search := (Edid.findProperty connector.props).run source state sink
    let lookup := (Edid.script connector).run source state sink
    (∀ id, connector.propValue? id = (pairs.find? fun entry => entry.1 == id).map Prod.snd) ∧
      search.queries = (Edid.upToPlace answers connector.props).map .property ∧
      (∃ property, search.outcome = .ok property ∧ Edid.blobId? connector property = blob) ∧
      lookup.queries = search.queries ++ blob.toList.map .blob ∧
      (blob = none -> lookup.outcome = .ok () ∧ lookup.sink = sink) ∧
      first.map (fun held => (held.id, held.value)) = place.bind (fun place => pairs[place]?) ∧
      (∀ held, first = some held -> held.blob? = some held.value) ∧
      blob = (first.map Held.value).filter (· != 0) ∧
      ∀ (options : Options) (id : UInt32),
        let block := (connector.script options id).run source state sink.unhindered
        block.outcome = .ok () ∧
          block.queries =
            (if options.edid then lookup.queries else []) ++
              (if options.fullProps then pairs.flatMap (pairQueries answers) else []) ∧
          block.sink.bytes = sink.bytes ++ Text.Utf8.encode (Text.unlines
            (connector.leadLines options id ++
              ((if options.edid then Edid.blobLines answers blob else []) ++
                if options.fullProps then (connector.held answers).flatMap (Held.lines answers)
                else []))) := by
  intro pairs place blob first search lookup
  have hsearch := Script.seen_run_of_steady hsteady (Edid.findProperty connector.props) state sink
  have hlookup := Script.seen_run_of_steady hsteady (Edid.script connector) state sink
  obtain ⟨hfound, hasked, -⟩ := Edid.run_findProperty answers connector.props sink
  obtain ⟨hqueries, hsilent⟩ := Edid.run_script answers connector sink
  have hsearched : search.queries = (Edid.upToPlace answers connector.props).map .property :=
    (congrArg Run.queries hsearch).trans hasked
  have hlooked : lookup.queries = search.queries ++ blob.toList.map .blob := by
    rw [hsearched]
    exact (congrArg Run.queries hlookup).trans hqueries
  refine ⟨connector.propValue?_eq_find?_zip, hsearched, ?_, hlooked, ?_, connector.find?_held,
    fun held hheld => Held.blob?_of_isEdid (List.find?_some hheld),
    connector.placedBlob?_eq_find?_held, ?_⟩
  · exact ⟨_, (congrArg (fun run : Run Unit _ => run.outcome) hsearch).trans hfound,
      Edid.blobId?_find? connector⟩
  · intro hnone
    obtain ⟨houtcome, hsink⟩ := hsilent hnone
    exact ⟨(congrArg (fun run : Run Unit Unit => run.outcome) hlookup).trans houtcome,
      (congrArg (fun run : Run Unit Unit => run.sink) hlookup).trans hsink⟩
  · intro options id
    rw [hlooked, hsearched]
    exact (connector.tells_script answers options id).run hsteady state sink

/-- A connector that lists the id of its identification data twice has the first of both values. -/
theorem lookup_of_repeated_id :
    let card : Card :=
      { properties := Table.ofList
          [(2, .ok { name := "EDID", flags := Property.rangeFlag }),
           (1, .ok { name := "EDID", flags := Property.blobFlag })] }
    let connector : Connector := { props := [7, 2, 1, 1], propValues := [30, 31, 32, 33, 34] }
    (card.source []).Steady card.answer ∧
      ((Edid.script connector).run (card.source []) 0 Sink.unlimited).queries =
        [.property 7, .property 2, .property 1, .blob 32] ∧
      ((connector.held card.answer).find? Held.isEdid).map (fun held => (held.id, held.value)) =
        some (1, 32) := by
  intro card connector
  have hsteady : (card.source []).Steady card.answer := card.steady_source
  obtain ⟨-, hsearch, -, hlookup, -, hfirst, -⟩ :=
    lookup_agrees_with_list hsteady connector 0 Sink.unlimited
  refine ⟨hsteady, ?_, hfirst.trans (by decide)⟩
  rw [hlookup, hsearch]
  decide

end Connector

end DisplayInventory
