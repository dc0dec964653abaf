import DisplayInventory.Report.ConnectorBlock
import DisplayInventory.Report.CrtcBlock
import DisplayInventory.Report.EncoderBlock
import DisplayInventory.Report.FramebufferBlock

/-!
# The report on a card

The report begins with the numbers of objects of every category.  Then follow the categories that
the options ask for, and in each of them one block for every id in the order of the list.  An object
that can not be had is told in one line and passed over; only without the lists of ids there is no
report.
-/

namespace DisplayInventory

def Resources.headerLines (resources : Resources) : List String :=
  ["Resources",
   "",
   "count_connectors : " ++ Text.decimal resources.connectors.length,
   "count_encoders   : " ++ Text.decimal resources.encoders.length,
   "count_crtcs      : " ++ Text.decimal resources.crtcs.length,
   "count_fbs        : " ++ Text.decimal resources.framebuffers.length,
   ""]

namespace Report

def missing (kind : String) (id : UInt32) (cause : IoError) : Script Unit := do
  Script.note (Notice.objectMissing kind id cause)
  Script.line ("Could not get " ++ kind ++ " " ++ Text.decimal id.toNat)

def connector (options : Options) (id : UInt32) : Script Unit := do
  match <- Script.query (.connector id (!options.current)) with
  | .ok connector => connector.script options id
  | .error cause => missing "connector" id cause

def encoder (options : Options) (id : UInt32) : Script Unit := do
  match <- Script.query (.encoder id) with
  | .ok encoder => Script.text (Text.unlines (encoder.lines options.debugModes id))
  | .error cause => missing "encoder" id cause

def crtc (options : Options) (id : UInt32) : Script Unit := do
  match <- Script.query (.crtc id) with
  | .ok crtc => Script.text (Text.unlines (crtc.lines options.debugModes id))
  | .error cause => missing "crtc" id cause

def framebuffer (id : UInt32) : Script Unit := do
  match <- Script.query (.framebuffer id) with
  | .ok framebuffer => Script.text (Text.unlines framebuffer.lines)
  | .error cause => missing "fb" id cause

/-- The blocks of a category, closed by an empty line. -/
def category (block : UInt32 -> Script Unit) (ids : List UInt32) : Script Unit := do
  Script.each block ids
  Script.line ""

def body (options : Options) (resources : Resources) : Script Unit := do
  Script.text (Text.unlines resources.headerLines)
  Script.onlyIf options.connectors (category (connector options) resources.connectors)
  Script.onlyIf options.encoders (category (encoder options) resources.encoders)
  Script.onlyIf options.crtcs (category (crtc options) resources.crtcs)
  Script.onlyIf options.framebuffers (Script.each framebuffer resources.framebuffers)

def script (options : Options) : Script Unit := do
  match <- Script.query .resources with
  | .ok resources =>
      body options resources
      Script.settle
  | .error cause =>
      Script.line "Failed to get resources from card"
      Script.stop (.resources cause)

end Report

end DisplayInventory
