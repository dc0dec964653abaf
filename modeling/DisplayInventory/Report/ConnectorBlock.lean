import DisplayInventory.Report.EdidBlock
import DisplayInventory.Report.ModeBlock
import DisplayInventory.Report.PropertyBlock

/-!
# Connectors in a report

A connector is shown by its own numbers, followed, as far as the options ask for them, by its modes,
its identification data and its properties.
-/

namespace DisplayInventory.Connector

def heading (connector : Connector) : String :=
  "Connector: " ++
    (Codes.connectorType? connector.connectorType).getD
      (Text.decimal connector.connectorType.toNat) ++
    "-" ++ Text.decimal connector.connectorTypeId.toNat

/-- The lines about the connector itself. -/
def summaryLines (id : UInt32) (connector : Connector) : List String :=
  [connector.heading,
   Text.field 15 "id" (Text.decimal id.toNat),
   Text.field 15 "encoder id" (Text.decimal connector.encoderId.toNat),
   Text.field 15 "conn" (Codes.connectionStatus connector.connection),
   Text.field 15 "size"
     (Text.decimal connector.mmWidth.toNat ++ "x" ++ Text.decimal connector.mmHeight.toNat ++
       " (mm)"),
   Text.field 15 "count_modes" (Text.decimal connector.modes.length),
   Text.field 15 "count_props" (Text.decimal connector.props.length)] ++
  Text.listField 15 "props" (connector.props.map UInt32.toNat) ++
  [Text.field 15 "count_encoders" (Text.decimal connector.encoders.length)] ++
  Text.listField 15 "encoders" (connector.encoders.map UInt32.toNat)

def modeLinesFrom (style : ModeStyle) (encoderId : UInt32) : Nat -> List Mode -> List String
  | _, [] => []
  | index, mode :: rest =>
      mode.lines style (.connector encoderId (UInt32.ofNat index)) ++
        modeLinesFrom style encoderId (index + 1) rest

def modeLines (style : ModeStyle) (connector : Connector) : List String :=
  modeLinesFrom style connector.encoderId 0 connector.modes

/-- Shows one property with its value, or leaves a record that it could not be had. -/
def propertyScript (id : UInt32) (value : UInt64) : Script Unit := do
  match <- Script.query (.property id) with
  | .ok property => property.script value
  | .error cause => Script.note (Notice.propertyMissing .report id cause)

def propertiesScript (connector : Connector) : Script Unit :=
  Script.each (fun entry => propertyScript entry.1 entry.2)
    (connector.props.zip connector.propValues)

def script (options : Options) (id : UInt32) (connector : Connector) : Script Unit := do
  Script.text (Text.unlines (connector.summaryLines id))
  Script.onlyIf options.modes
    (Script.text (Text.unlines (connector.modeLines options.modeStyle)))
  Script.onlyIf options.edid (Edid.script connector)
  Script.onlyIf options.fullProps connector.propertiesScript

end DisplayInventory.Connector
