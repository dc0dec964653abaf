import DisplayInventory.Card.Codes
import DisplayInventory.Decimal.Hundredths
import DisplayInventory.Options
import DisplayInventory.Text.Layout

/-!
# Modes in a report

A mode is shown in one of three styles.  The brief style is a line with its name, size and
refresh rate; the full style adds a field for every number; the debug style is a line with the
clock, the aspect ratio and the object that the mode belongs to.
-/

namespace DisplayInventory

inductive ModeStyle where
  | brief
  | full
  | debug
  deriving DecidableEq

/-- The style chosen by the options: debug wins over full. -/
def Options.modeStyle (options : Options) : ModeStyle :=
  if options.debugModes then .debug
  else if options.fullModes then .full
  else .brief

/-- The object that a mode belongs to. -/
inductive ModeOwner where
  /-- The mode at a position of the list of a connector that has an encoder attached. -/
  | connector (encoderId : UInt32) (index : UInt32)
  /-- The active mode of a controller. -/
  | crtc (id : UInt32)
  deriving DecidableEq

def ModeOwner.text : ModeOwner -> String
  | .connector encoderId index =>
      "connector " ++ Text.decimal encoderId.toNat ++ " " ++ Text.decimal index.toNat
  | .crtc id => "crtc " ++ Text.decimal id.toNat ++ " 0"

namespace Mode

def numbers (mode : Mode) : List (String × Nat) :=
  [("clock", mode.clock.toNat),
   ("hdisplay", mode.hdisplay.toNat),
   ("hsync_start", mode.hsyncStart.toNat),
   ("hsync_end", mode.hsyncEnd.toNat),
   ("htotal", mode.htotal.toNat),
   ("hskew", mode.hskew.toNat),
   ("vdisplay", mode.vdisplay.toNat),
   ("vsync_start", mode.vsyncStart.toNat),
   ("vsync_end", mode.vsyncEnd.toNat),
   ("vtotal", mode.vtotal.toNat),
   ("vscan", mode.vscan.toNat),
   ("vrefresh", mode.vrefresh.toNat),
   ("flags", mode.flags.toNat)]

def briefLine (mode : Mode) : String :=
  "Mode: \"" ++ mode.name ++ "\" " ++ Text.decimal mode.hdisplay.toNat ++ "x" ++
    Text.decimal mode.vdisplay.toNat ++ " " ++ Text.decimal mode.vrefresh.toNat

def fullLines (mode : Mode) : List String :=
  ("Mode: " ++ mode.name) ::
    mode.numbers.map fun number => Text.field 12 number.1 (Text.decimal number.2)

def debugLine (mode : Mode) (owner : ModeOwner) : String :=
  "Mode: " ++ mode.name ++ " @ " ++ Text.decimal mode.vrefresh.toNat ++ " Hz, clock: " ++
    Decimal.showThousandths mode.clock.toNat ++ " Mhz, aspect: " ++
    Codes.aspectRatio (Codes.aspectRatioOf mode.flags) ++ " " ++ owner.text

def lines (style : ModeStyle) (owner : ModeOwner) (mode : Mode) : List String :=
  match style with
  | .brief => [mode.briefLine]
  | .full => mode.fullLines
  | .debug => [mode.debugLine owner]

end Mode

end DisplayInventory
