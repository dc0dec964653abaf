import DisplayInventory.Kernel.Search
import DisplayInventory.Path
import DisplayInventory.Text.Quoted

/-!
# Discovery of devices

The devices of a host are the entries of its device directory whose names begin with `card`, in
ascending order of their paths, which for plain names is that of the bytes of the names.  When no
device is named, they are tried in this order and the first that opens, and has the wanted driver,
is used.
-/

namespace DisplayInventory.Kernel

def cardName : String :=
  "card"

def isCardPath (path : String) : Bool :=
  match Path.fileName? path with
  | some name => cardName.toList.isPrefixOf name.toList
  | none => false

/-- The path of an entry of the device directory, if its name is well formed. -/
def entryPath? (entry : List UInt8) : Option String :=
  (Text.Utf8.decode? (beforeZero entry)).map (Path.join devicePath)

def sortedCardPaths (entries : List (List UInt8)) : List String :=
  ((entries.filterMap entryPath?).filter isCardPath).mergeSort Path.noLater

def foundRecord (paths : List String) : Record :=
  ⟨.debug, .devices,
    "Found " ++ Text.decimal paths.length ++ " DRM device(s): " ++ Text.quotedList paths⟩

namespace Host

def cardPaths (host : Host) : Except DeviceFailure (List String) :=
  match host.directory with
  | .absent => .error .noDirectory
  | .unreadable errno => .error (.directoryUnreadable (.system errno))
  | .entries _ (some errno) => .error (.directoryInterrupted (.system errno))
  | .entries names none => .ok (sortedCardPaths names)

/-- The paths of the devices of a host, with the log of finding them. -/
def findDevices (host : Host) : Except DeviceFailure (List String) × List Record :=
  match host.cardPaths with
  | .error failure => (.error failure, [])
  | .ok paths => (.ok paths, [foundRecord paths])

def listDevices (host : Host) : Search (Except DeviceFailure (List String)) :=
  let (paths, records) := host.findDevices
  { result := paths, requests := [.directory], records }

def attempt (host : Host) (driver : Option String) (path : String) : Search (Option Device) := do
  Search.note ⟨.debug, .devices, "Trying to open " ++ path⟩
  match <- host.openNode path with
  | .error failure =>
      Search.note ⟨.warn, .devices, failure.message⟩
      pure none
  | .ok device =>
      match driver with
      | none =>
          Search.note ⟨.info, .devices, "Opened DRM device " ++ path⟩
          pure (some device)
      | some wanted =>
          match <- device.askDriver with
          | .error cause =>
              Search.note ⟨.warn, .devices, (DeviceFailure.driver cause).message⟩
              pure none
          | .ok name =>
              if name = wanted then
                Search.note
                  ⟨.info, .devices, "Opened DRM device " ++ path ++ " driven by " ++ name⟩
                pure (some device)
              else
                Search.note ⟨.debug, .devices, "Skipping " ++ path ++ " driven by " ++ name⟩
                pure none

def exhausted (driver : Option String) : DeviceFailure :=
  match driver with
  | some wanted => .noneDrivenBy wanted
  | none => .noneOpens

def openFirst (host : Host) (driver : Option String) :
    List String -> Search (Except DeviceFailure Device)
  | [] => pure (.error (exhausted driver))
  | path :: rest => do
      match <- host.attempt driver path with
      | some device => pure (.ok device)
      | none => host.openFirst driver rest

def search (host : Host) (device driver : Option String) :
    Search (Except DeviceFailure Device) := do
  match device with
  | some path =>
      Search.note ⟨.info, .devices, "Opening DRM device " ++ path⟩
      host.openNode path
  | none =>
      match <- host.listDevices with
      | .error failure => pure (.error failure)
      | .ok paths => host.openFirst driver paths

/-- The device that a search comes to, with the log of the search. -/
def openMatching (host : Host) (device driver : Option String) :
    Except DeviceFailure Device × List Record :=
  let found := host.search device driver
  (found.result, found.records)

end Host

end DisplayInventory.Kernel
