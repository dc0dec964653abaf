import DisplayInventory.Kernel.Discovery
import DisplayInventory.Proofs.Kernel.Mirror

/-!
# Hosts with other nodes

Of what is behind a node the search for a device asks for the driver alone.  So if the nodes of a
host are changed in everything else, the search goes the same way and comes to the changed device.
-/

namespace DisplayInventory.Kernel

def Device.change (change : String -> Node -> Node) (device : Device) : Device :=
  ⟨device.path, change device.path device.node⟩

namespace Host

def changeNodes (change : String -> Node -> Node) (host : Host) : Host :=
  { host with nodes := host.nodes.map fun path opened => opened.map (change path) }

/-- Whether a change to nodes leaves their drivers alone. -/
def KeepsDrivers (change : String -> Node -> Node) : Prop :=
  ∀ path node,
    (change path node).driver = node.driver ∧
      (change path node).driverFailure = node.driverFailure

variable (host : Host) {change : String -> Node -> Node}

theorem openPath_changeNodes (change : String -> Node -> Node) (path : String) :
    (host.changeNodes change).openPath path =
      (host.openPath path).map (Device.change change) := by
  unfold openPath
  split
  · rfl
  · simp only [changeNodes, Table.find?_map]
    cases host.nodes.find? path with
    | none => rfl
    | some opened => cases opened <;> rfl

theorem driverName_change (hchange : KeepsDrivers change) (device : Device) :
    (device.change change).driverName = device.driverName := by
  obtain ⟨hdriver, hfailure⟩ := hchange device.path device.node
  unfold Device.driverName Device.change
  rw [hdriver, hfailure]

theorem attempt_changeNodes (hchange : KeepsDrivers change) (driver : Option String)
    (path : String) :
    (host.changeNodes change).attempt driver path =
      (host.attempt driver path).map (Option.map (Device.change change)) := by
  simp only [attempt, Search.bind_eq, Search.note_eq, openNode_eq, Search.bind_mk]
  rw [openPath_changeNodes]
  cases host.openPath path with
  | error failure => rfl
  | ok device =>
      cases driver with
      | none => rfl
      | some wanted =>
          simp only [Except.map, Device.askDriver_eq, driverName_change hchange, Search.bind_mk]
          cases device.driverName with
          | error cause => rfl
          | ok name => by_cases hname : name = wanted <;> simp [hname, Search.map, Device.change]

theorem openFirst_changeNodes (hchange : KeepsDrivers change) (driver : Option String)
    (paths : List String) :
    (host.changeNodes change).openFirst driver paths =
      (host.openFirst driver paths).map (Except.map (Device.change change)) := by
  induction paths with
  | nil => rfl
  | cons path rest ih =>
      rw [openFirst, openFirst, attempt_changeNodes host hchange]
      cases hattempt : host.attempt driver path with
      | mk device requests records =>
          cases device with
          | some device => rfl
          | none => simp [Search.map, ih]

/-- A change that leaves the drivers alone is made to the device that a search comes to. -/
theorem openMatching_changeNodes (hchange : KeepsDrivers change) (device driver : Option String) :
    (host.changeNodes change).openMatching device driver =
      ((host.openMatching device driver).1.map (Device.change change),
        (host.openMatching device driver).2) := by
  have hsearch : (host.changeNodes change).search device driver =
      (host.search device driver).map (Except.map (Device.change change)) := by
    cases device with
    | some path => simp [search, Search.map, openPath_changeNodes]
    | none =>
        have hlist : (host.changeNodes change).listDevices = host.listDevices := rfl
        simp only [search, Search.bind_eq, Search.bind, hlist]
        cases host.listDevices.result with
        | error failure => rfl
        | ok paths => simp [Search.map, openFirst_changeNodes host hchange]
  unfold openMatching
  rw [hsearch]
  rfl

end Host

end DisplayInventory.Kernel
