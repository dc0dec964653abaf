import DisplayInventory.Card.Category
import DisplayInventory.Proofs.Script.Inquiry
import DisplayInventory.Report.Inventory

/-!
# The sections of a report

The four categories are shown alike: one question for every listed id, then the block of the object
or a line that it can not be had.  This file says so once for all categories.  Whatever is answered,
the sections come to their end, and within the block of an object no other listed object is asked
for.
-/

namespace DisplayInventory

namespace Category

def all : List Category :=
  [.connectors, .encoders, .crtcs, .framebuffers]

def kind : Category -> String
  | .connectors => "connector"
  | .encoders => "encoder"
  | .crtcs => "crtc"
  | .framebuffers => "fb"

def question (options : Options) : Category -> UInt32 -> Query
  | .connectors, id => .connector id (!options.current)
  | .encoders, id => .encoder id
  | .crtcs, id => .crtc id
  | .framebuffers, id => .framebuffer id

def closing : Category -> String
  | .framebuffers => ""
  | _ => "\n"

def missingLine (category : Category) (id : UInt32) : String :=
  "Could not get " ++ category.kind ++ " " ++ Text.decimal id.toNat ++ "\n"

end Category

def Property.isEdid (property : Property) : Bool :=
  property.name == "EDID" && property.flags &&& 16 != 0

theorem Edid.isEdid_eq (property : Property) : Edid.isEdid property = property.isEdid := rfl

/-- Whether a question asks for a listed object, and not for something that belongs to one. -/
def Query.isObject : Query -> Bool
  | .connector _ _ | .encoder _ | .crtc _ | .framebuffer _ => true
  | _ => false

namespace Options

def shows (options : Options) : Category -> Bool
  | .connectors => options.connectors
  | .encoders => options.encoders
  | .crtcs => options.crtcs
  | .framebuffers => options.framebuffers

def wanted (options : Options) (listing : Resources) (category : Category) : List UInt32 :=
  if options.shows category then listing.list category else []

end Options

namespace Report

def found (options : Options) :
    (category : Category) -> (id : UInt32) -> (category.question options id).Found -> Script Unit
  | .connectors, id, connector => connector.script options id
  | .encoders, id, encoder => Script.text (Text.unlines (encoder.lines options.debugModes id))
  | .crtcs, id, crtc => Script.text (Text.unlines (crtc.lines options.debugModes id))
  | .framebuffers, _, framebuffer => Script.text (Text.unlines framebuffer.lines)

def block (options : Options) (category : Category) (id : UInt32) : Script Unit :=
  (Script.query (category.question options id)).bind fun answer =>
    match answer with
    | .ok object => found options category id object
    | .error cause => missing category.kind id cause

def close : Category -> Script Unit
  | .framebuffers => .done ()
  | _ => Script.line ""

def part (options : Options) (listing : Resources) (category : Category) : Script Unit :=
  Script.onlyIf (options.shows category)
    ((Script.each (block options category) (listing.list category)).bind fun _ => close category)

theorem connector_eq_block (options : Options) : connector options = block options .connectors := by
  funext id
  refine congrArg (Script.ask _) (funext fun answer => ?_)
  cases answer <;> rfl

theorem encoder_eq_block (options : Options) : encoder options = block options .encoders := by
  funext id
  refine congrArg (Script.ask _) (funext fun answer => ?_)
  cases answer <;> rfl

theorem crtc_eq_block (options : Options) : crtc options = block options .crtcs := by
  funext id
  refine congrArg (Script.ask _) (funext fun answer => ?_)
  cases answer <;> rfl

theorem framebuffer_eq_block (options : Options) :
    framebuffer = block options .framebuffers := by
  funext id
  refine congrArg (Script.ask _) (funext fun answer => ?_)
  cases answer <;> rfl

theorem body_eq_parts (options : Options) (listing : Resources) :
    body options listing =
      (Script.text (Text.unlines listing.headerLines)).bind fun _ =>
        Script.each (part options listing) Category.all := by
  have hlast : part options listing .framebuffers =
      Script.onlyIf options.framebuffers (Script.each framebuffer listing.framebuffers) := by
    rw [framebuffer_eq_block options]
    exact congrArg (Script.onlyIf options.framebuffers) (Script.bind_done _)
  have hall : Script.each (part options listing) Category.all =
      (part options listing .connectors).bind fun _ =>
        (part options listing .encoders).bind fun _ =>
          (part options listing .crtcs).bind fun _ => part options listing .framebuffers := by
    simp only [Category.all, Script.each]
    rw [show (part options listing .framebuffers).bind (fun _ => Script.done ()) = _ from
      Script.bind_done _]
  rw [hall, hlast]
  simp only [body, Script.bind_eq, connector_eq_block, encoder_eq_block, crtc_eq_block]
  rfl

end Report

/-! ## What the blocks hand on to the sections -/

namespace Report

variable {holds : Script Unit -> Prop} {options : Options} {listing : Resources}

theorem part_of_blocks (hholds : Script.Compositional holds) (hline : holds (Script.line ""))
    {category : Category}
    (hblock : options.shows category = true ->
      ∀ id ∈ listing.list category, holds (block options category id)) :
    holds (part options listing category) := by
  apply hholds.onlyIf
  intro hshows
  apply hholds.bind (hholds.each (hblock hshows))
  cases category with
  | framebuffers => exact hholds.done
  | connectors | encoders | crtcs => exact hline

theorem parts_of_blocks (hholds : Script.Compositional holds) (hline : holds (Script.line ""))
    (hblock : ∀ category, ∀ id ∈ listing.list category, holds (block options category id)) :
    holds (Script.each (part options listing) Category.all) :=
  hholds.each fun category _ => part_of_blocks hholds hline fun _ => hblock category

end Report

/-! ## What the sections ask -/

section Walks

variable {possible : (query : Query) -> query.Answer -> Prop} {permitted : Query -> Prop}

theorem Property.script_walks (property : Property) {value : UInt64}
    (hblob : permitted (.blob value)) : (property.script value).Walks possible permitted := by
  unfold Property.script
  split
  · refine ⟨hblob, fun answer _ => ?_⟩
    cases answer <;> trivial
  · trivial

theorem Connector.propertyScript_walks {id : UInt32} {value : UInt64}
    (hproperty : permitted (.property id)) (hblob : permitted (.blob value)) :
    (propertyScript id value).Walks possible permitted := by
  refine ⟨hproperty, fun answer _ => ?_⟩
  cases answer with
  | ok property => exact property.script_walks hblob
  | error cause => trivial

theorem Connector.propertiesScript_walks {connector : Connector}
    (hproperty : ∀ id ∈ connector.props, permitted (.property id))
    (hblob : ∀ value ∈ connector.propValues, permitted (.blob value)) :
    connector.propertiesScript.Walks possible permitted := by
  refine Script.Walks.each fun entry hentry => ?_
  have hmem := List.of_mem_zip hentry
  exact propertyScript_walks (hproperty entry.1 hmem.1) (hblob entry.2 hmem.2)

theorem Edid.findProperty_walks {props : List UInt32}
    (hproperty : ∀ id ∈ props, permitted (.property id)) :
    (findProperty props).Walks possible permitted := by
  induction props with
  | nil => trivial
  | cons id rest ih =>
      have hrest := ih fun other hother => hproperty other (List.mem_cons_of_mem id hother)
      refine ⟨hproperty id List.mem_cons_self, fun answer _ => ?_⟩
      cases answer with
      | ok property =>
          dsimp only
          split
          · trivial
          · exact hrest
      | error cause => exact hrest

theorem Edid.mem_of_blobId? {connector : Connector} {property : Option UInt32} {value : UInt64}
    (hid : blobId? connector property = some value) : value ∈ connector.propValues := by
  unfold blobId? at hid
  split at hid
  · rename_i found hfound
    obtain ⟨id, -, hvalue⟩ := Option.bind_eq_some_iff.mp hfound
    unfold Connector.propValue? at hvalue
    split at hvalue
    · exact absurd hvalue (by simp)
    · split at hid
      · exact absurd hid (by simp)
      · cases hid
        exact List.mem_of_getElem? hvalue
  · exact absurd hid (by simp)

theorem Edid.dump_walks (id : UInt64) (bytes : List UInt8) :
    (dump id bytes).Walks possible permitted := by
  unfold dump
  cases (read bytes).notice? id bytes <;> trivial

theorem Edid.script_walks {connector : Connector}
    (hproperty : ∀ id ∈ connector.props, permitted (.property id))
    (hblob : ∀ value ∈ connector.propValues, permitted (.blob value)) :
    (script connector).Walks possible permitted := by
  refine (findProperty_walks hproperty).bind fun property => ?_
  cases hid : blobId? connector property with
  | none => trivial
  | some id =>
      refine ⟨hblob id (mem_of_blobId? hid), fun answer _ => ?_⟩
      cases answer with
      | ok bytes => exact dump_walks id bytes
      | error cause => trivial

/--
The block of a connector asks for its properties and for blobs that its values tell, and for these
only if its identification data or its properties are to be shown.
-/
theorem Connector.script_walks {options : Options} (id : UInt32) {connector : Connector}
    (hdetails : options.edid = true ∨ options.fullProps = true ->
      (∀ id ∈ connector.props, permitted (.property id)) ∧
        ∀ value ∈ connector.propValues, permitted (.blob value)) :
    (connector.script options id).Walks possible permitted := by
  refine Script.Walks.bind trivial fun _ => ?_
  refine Script.Walks.bind (Script.Walks.onlyIf fun _ => trivial) fun _ => ?_
  refine Script.Walks.bind (Script.Walks.onlyIf fun hedid => ?_) fun _ =>
    Script.Walks.onlyIf fun hprops => ?_
  · obtain ⟨hproperty, hblob⟩ := hdetails (.inl hedid)
    exact Edid.script_walks hproperty hblob
  · obtain ⟨hproperty, hblob⟩ := hdetails (.inr hprops)
    exact propertiesScript_walks hproperty hblob

theorem Report.found_walks (options : Options) (category : Category) (id : UInt32)
    (object : (category.question options id).Found) :
    (found options category id object).Walks possible fun query => query.isObject = false := by
  cases category with
  | connectors =>
      exact Connector.script_walks id fun _ => ⟨fun _ _ => rfl, fun _ _ => rfl⟩
  | encoders => trivial
  | crtcs => trivial
  | framebuffers => trivial

/--
Permission to ask for the properties of the connectors that can be found, and for the blobs that
their values tell.
-/
def Report.PermitsDetails (options : Options)
    (possible : (query : Query) -> query.Answer -> Prop) (permitted : Query -> Prop) : Prop :=
  ∀ id connector, possible (.connector id (!options.current)) (.ok connector) ->
    (∀ property ∈ connector.props, permitted (.property property)) ∧
      ∀ value ∈ connector.propValues, permitted (.blob value)

variable {options : Options}

theorem Report.block_walks_of_found {category : Category} {id : UInt32}
    (hquestion : permitted (category.question options id))
    (hfound : ∀ object, possible (category.question options id) (.ok object) ->
      (found options category id object).Walks possible permitted) :
    (block options category id).Walks possible permitted := by
  refine ⟨hquestion, fun answer hanswer => ?_⟩
  cases answer with
  | error cause => trivial
  | ok object => exact hfound object hanswer

theorem Report.block_walks (hdetails : PermitsDetails options possible permitted)
    {category : Category} {id : UInt32} (hquestion : permitted (category.question options id)) :
    (block options category id).Walks possible permitted := by
  refine block_walks_of_found hquestion fun object hanswer => ?_
  cases category with
  | connectors => exact Connector.script_walks id fun _ => hdetails id object hanswer
  | encoders => trivial
  | crtcs => trivial
  | framebuffers => trivial

theorem Report.part_walks (hdetails : PermitsDetails options possible permitted)
    {listing : Resources} {category : Category}
    (hquestion : options.shows category = true -> ∀ id ∈ listing.list category,
      permitted (category.question options id)) :
    (part options listing category).Walks possible permitted :=
  part_of_blocks Script.Walks.compositional trivial fun hshows id hid =>
    block_walks hdetails (hquestion hshows id hid)

theorem Report.body_walks_of_blocks {listing : Resources}
    (hblock : ∀ category, options.shows category = true ->
      ∀ id ∈ listing.list category, (block options category id).Walks possible permitted) :
    (body options listing).Walks possible permitted := by
  rw [body_eq_parts]
  exact Script.Walks.bind trivial fun _ => Script.Walks.each fun category _ =>
    part_of_blocks Script.Walks.compositional trivial (hblock category)

/--
A report asks permitted questions only, if it is permitted to ask for the lists, and the blocks of
what these can list ask permitted questions.
-/
theorem Report.script_asks_of_blocks (hresources : permitted .resources)
    (hblock : ∀ listing, possible .resources (.ok listing) ->
      ∀ category, options.shows category = true ->
        ∀ id ∈ listing.list category, (block options category id).Walks possible permitted) :
    (script options).Asks possible permitted := by
  refine ⟨hresources, fun answer hanswer => ?_⟩
  cases answer with
  | ok listing => exact (body_walks_of_blocks (hblock listing hanswer)).asks.bind fun _ => trivial
  | error cause => trivial

theorem Report.script_asks_listed (hdetails : PermitsDetails options possible permitted)
    (hresources : permitted .resources)
    (hquestion : ∀ listing, possible .resources (.ok listing) ->
      ∀ category, options.shows category = true ->
        ∀ id ∈ listing.list category, permitted (category.question options id)) :
    (script options).Asks possible permitted :=
  script_asks_of_blocks hresources fun listing hlisting category hshows id hid =>
    block_walks hdetails (hquestion listing hlisting category hshows id hid)

theorem Report.script_asks (hdetails : PermitsDetails options possible permitted)
    (hquestion : ∀ (category : Category) id, permitted (category.question options id))
    (hresources : permitted .resources) : (script options).Asks possible permitted :=
  script_asks_listed hdetails hresources fun _ _ category _ id _ => hquestion category id

end Walks

namespace Report

theorem permitsDetails_of_all (options : Options)
    (possible : (query : Query) -> query.Answer -> Prop) :
    PermitsDetails options possible fun _ => True :=
  fun _ _ _ => ⟨fun _ _ => trivial, fun _ _ => trivial⟩

/-- Whatever is answered, the block of an id comes to its end. -/
theorem block_plain (options : Options) (category : Category) (id : UInt32) :
    (block options category id).Plain :=
  (block_walks (permitsDetails_of_all options _) trivial).plain

theorem part_plain (options : Options) (listing : Resources) (category : Category) :
    (part options listing category).Plain :=
  (part_walks (permitsDetails_of_all options _) fun _ _ _ => trivial).plain

theorem body_plain (options : Options) (listing : Resources) : (body options listing).Plain :=
  (body_walks_of_blocks fun _ _ _ _ =>
    block_walks (permitsDetails_of_all options fun _ _ => True) trivial).plain

end Report

end DisplayInventory
