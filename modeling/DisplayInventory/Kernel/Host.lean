import DisplayInventory.Kernel.Device

/-!
# Hosts

A host has a directory that lists its devices, and device nodes that can be opened by their path.
-/

namespace DisplayInventory.Kernel

inductive DeviceDirectory where
  | absent
  /-- It can not be opened. -/
  | unreadable (errno : Int)
  /-- Its entries in their order, and the error number with which reading ends, if it does. -/
  | entries (names : List (List UInt8)) (interruption : Option Int)
  deriving DecidableEq

structure Host where
  directory : DeviceDirectory := .absent
  /-- Nodes by path; an error number stands for a node that can not be opened. -/
  nodes : Table String (Except Int Node) := {}

/-- Why no device was opened, or why one does not tell its driver. -/
inductive DeviceFailure where
  | noDirectory
  /-- The directory can not be opened. -/
  | directoryUnreadable (cause : IoError)
  /-- Reading the directory failed on the way. -/
  | directoryInterrupted (cause : IoError)
  /-- A node can not be opened. -/
  | node (path : String) (cause : IoError)
  /-- The name of the driver is withheld. -/
  | driver (cause : IoError)
  /-- No device is driven by a driver of the wanted name. -/
  | noneDrivenBy (name : String)
  | noneOpens
  deriving DecidableEq

def devicePath : String :=
  "/dev/dri"

def DeviceFailure.chain : DeviceFailure -> List String
  | .noDirectory => [devicePath ++ " does not exist - is the DRM subsystem loaded?"]
  | .directoryUnreadable cause => ["Failed to read " ++ devicePath, cause.message]
  | .directoryInterrupted cause => [cause.message]
  | .node path cause => ["Failed to open " ++ path, cause.message]
  | .driver cause => ["Failed to get DRM driver info", cause.message]
  | .noneDrivenBy name => ["No DRM device driven by " ++ name ++ " found"]
  | .noneOpens => ["No DRM device could be opened"]

def DeviceFailure.message (failure : DeviceFailure) : String :=
  joinCauses failure.chain

/-- Opens the node at a path; a path with a zero character in it is not a path at all. -/
def Host.openPath (host : Host) (path : String) : Except DeviceFailure Device :=
  if path.toList.any fun c => c.toNat == 0 then
    .error (.node path (.system 22))
  else
    match host.nodes.find? path with
    | some (.ok node) => .ok ⟨path, node⟩
    | some (.error errno) => .error (.node path (.system errno))
    | none => .error (.node path IoError.missing)

end DisplayInventory.Kernel
