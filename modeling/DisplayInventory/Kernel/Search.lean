import DisplayInventory.Kernel.Host
import DisplayInventory.Log.Record

/-!
# Searches of a host

A search asks a host for its devices, opens nodes and asks devices for their drivers.  Beside what
it comes to it keeps what it asked and what it noted, so nothing is asked of a host that is not
told.
-/

namespace DisplayInventory.Kernel

/-- What is asked of a host in a search. -/
inductive Request where
  /-- To list the directory of the devices. -/
  | directory
  /-- To open the node at a path. -/
  | node (path : String)
  /-- To tell the driver of the device open at a path. -/
  | driver (path : String)
  deriving DecidableEq

/-- A search that has been made: what it came to, its requests and its records, in order. -/
structure Search (α : Type) where
  result : α
  requests : List Request := []
  records : List Record := []

namespace Search

variable {α β : Type}

def bind (search : Search α) (next : α -> Search β) : Search β :=
  let later := next search.result
  { result := later.result
    requests := search.requests ++ later.requests
    records := search.records ++ later.records }

def map (convert : α -> β) (search : Search α) : Search β :=
  { search with result := convert search.result }

instance : Monad Search where
  pure result := { result }
  bind := bind

@[simp] theorem pure_eq (result : α) : (pure result : Search α) = { result } := rfl

@[simp] theorem bind_eq (search : Search α) (next : α -> Search β) :
    search >>= next = search.bind next := rfl

@[simp] theorem bind_mk (result : α) (requests : List Request) (records : List Record)
    (next : α -> Search β) :
    bind ⟨result, requests, records⟩ next =
      ⟨(next result).result, requests ++ (next result).requests,
        records ++ (next result).records⟩ := rfl

def note (record : Record) : Search Unit :=
  { result := (), records := [record] }

@[simp] theorem note_eq (record : Record) : note record = ⟨(), [], [record]⟩ := rfl

end Search

namespace Host

def openNode (host : Host) (path : String) : Search (Except DeviceFailure Device) :=
  { result := host.openPath path, requests := [.node path] }

@[simp] theorem openNode_eq (host : Host) (path : String) :
    host.openNode path = ⟨host.openPath path, [.node path], []⟩ := rfl

end Host

def Device.askDriver (device : Device) : Search (Except IoError String) :=
  { result := device.driverName, requests := [.driver device.path] }

@[simp] theorem Device.askDriver_eq (device : Device) :
    device.askDriver = ⟨device.driverName, [.driver device.path], []⟩ := rfl

end DisplayInventory.Kernel
