import DisplayInventory.Text.Layout

/-!
# Help text
-/

namespace DisplayInventory

def helpLines : List String :=
  ["Usage: kmsprint [OPTIONS]",
   "Options:",
   "  -fb                 Print framebuffers",
   "  -crtcs              Print CRTCs",
   "  -cons, -modes       Print connectors and their modes",
   "  -full               Print connectors and every mode timing",
   "  -props              Print connectors and their properties",
   "  -edids              Print connectors and their EDID",
   "  -encoders           Print encoders",
   "  -v                  Print everything",
   "  -current            Do not force a connector probe",
   "  -debug              Print modes in the compact debug style",
   "  -D, --device PATH   Open the given device node",
   "  -M, --module NAME   Open the first device driven by NAME",
   "  --log-file PATH     Append logs to PATH instead of stderr",
   "  -h, --help          Print this help message and exit"]

def helpText : String :=
  Text.unlines helpLines

end DisplayInventory
