import DisplayInventory.Kernel.Discovery

/-!
# The search for a device

Paths are tried in order until the device at one of them suits.  The trial of a path ends in one of
five ways, each with a record of its own, and a search is a row of trials of which only the last one
can be a success.  The requests of a search are those of its trials: no path behind the device taken
is opened, and no device is asked for its driver unless a driver is wanted.  Nor does a search come
by anything else, for its outcome and its log depend on the replies to these requests alone.
-/

namespace DisplayInventory.Kernel

theorem Device.driverName_eq_ok_iff (device : Device) (name : String) :
    device.driverName = .ok name ↔
      device.node.driverFailure = none ∧
        Text.Utf8.decode (device.node.driver.takeWhile (· != 0)) = name := by
  unfold driverName
  cases device.node.driverFailure with
  | none => simp [readName, beforeZero]
  | some errno => simp

namespace Host

variable (host : Host) (driver : Option String)

theorem path_of_openPath {host : Host} {path : String} {device : Device}
    (hopen : host.openPath path = .ok device) : device.path = path := by
  unfold openPath at hopen
  split at hopen
  · exact absurd hopen nofun
  · split at hopen
    · cases hopen
      rfl
    · exact absurd hopen nofun
    · exact absurd hopen nofun

/-! ## Trials -/

/--
Whether the device at a path is one that is looked for: it opens and, if a driver is wanted, tells
the name of its driver, which up to the first zero is the wanted one.
-/
def Suits (path : String) : Prop :=
  ∃ device, host.openPath path = .ok device ∧
    ∀ wanted, driver = some wanted ->
      device.node.driverFailure = none ∧
        Text.Utf8.decode (device.node.driver.takeWhile (· != 0)) = wanted

/-- The ways in which the trial of a path can end, by the record of it. -/
inductive Verdict (path : String) : Record -> Prop where
  | shut {failure : DeviceFailure} (hopen : host.openPath path = .error failure) :
      Verdict path ⟨.warn, .devices, failure.message⟩
  | nameless {device : Device} {wanted : String} {cause : IoError}
      (hopen : host.openPath path = .ok device) (hwanted : driver = some wanted)
      (hname : device.driverName = .error cause) :
      Verdict path ⟨.warn, .devices, (DeviceFailure.driver cause).message⟩
  | mismatched {device : Device} {wanted name : String}
      (hopen : host.openPath path = .ok device) (hwanted : driver = some wanted)
      (hname : device.driverName = .ok name) (hne : name ≠ wanted) :
      Verdict path ⟨.debug, .devices, "Skipping " ++ path ++ " driven by " ++ name⟩
  | opened {device : Device} (hopen : host.openPath path = .ok device) (hany : driver = none) :
      Verdict path ⟨.info, .devices, "Opened DRM device " ++ path⟩
  | matched {device : Device} {wanted : String} (hopen : host.openPath path = .ok device)
      (hwanted : driver = some wanted) (hname : device.driverName = .ok wanted) :
      Verdict path ⟨.info, .devices, "Opened DRM device " ++ path ++ " driven by " ++ wanted⟩

variable {host driver}

theorem suits_of_open {path : String} {device : Device} (hopen : host.openPath path = .ok device) :
    host.Suits driver path ↔ ∀ wanted, driver = some wanted -> device.driverName = .ok wanted := by
  constructor
  · rintro ⟨device', hopen', hsuits⟩ wanted hwanted
    have hsame : device' = device := Except.ok.inj (hopen'.symm.trans hopen)
    rw [← hsame]
    exact (device'.driverName_eq_ok_iff wanted).mpr (hsuits wanted hwanted)
  · intro hnames
    exact ⟨device, hopen, fun wanted hwanted =>
      (device.driverName_eq_ok_iff wanted).mp (hnames wanted hwanted)⟩

def trialRequests (host : Host) (driver : Option String) (path : String) : List Request :=
  match host.openPath path, driver with
  | .ok _, some _ => [.node path, .driver path]
  | _, _ => [.node path]

/-- Everything that an attempt can come to: a device is taken if and only if it suits. -/
theorem attempt_cases (host : Host) (driver : Option String) (path : String) :
    (∃ device record,
        host.attempt driver path = ⟨some device, host.trialRequests driver path,
          [⟨.debug, .devices, "Trying to open " ++ path⟩, record]⟩ ∧
        host.openPath path = .ok device ∧ host.Suits driver path ∧
        host.Verdict driver path record) ∨
      ∃ record,
        host.attempt driver path = ⟨none, host.trialRequests driver path,
          [⟨.debug, .devices, "Trying to open " ++ path⟩, record]⟩ ∧
        ¬host.Suits driver path ∧ host.Verdict driver path record := by
  cases hopen : host.openPath path with
  | error failure =>
      refine .inr ⟨_, by simp [attempt, trialRequests, hopen], ?_, .shut hopen⟩
      rintro ⟨device, hdevice, -⟩
      exact absurd (hopen.symm.trans hdevice) nofun
  | ok device =>
      have hsuits : host.Suits driver path ↔ _ := suits_of_open hopen
      have hpath := path_of_openPath hopen
      cases driver with
      | none =>
          exact .inl ⟨device, _, by simp [attempt, trialRequests, hopen], rfl,
            hsuits.mpr nofun, .opened hopen rfl⟩
      | some wanted =>
          cases hname : device.driverName with
          | error cause =>
              refine .inr ⟨_, by simp [attempt, trialRequests, hopen, hname, hpath],
                fun htaken => ?_, .nameless hopen rfl hname⟩
              exact absurd (hname.symm.trans (hsuits.mp htaken wanted rfl)) nofun
          | ok name =>
              by_cases hwanted : name = wanted
              · subst hwanted
                refine .inl ⟨device, _, by simp [attempt, trialRequests, hopen, hname, hpath], rfl,
                  hsuits.mpr ?_, .matched hopen rfl hname⟩
                rintro wanted ⟨⟩
                exact hname
              · refine .inr ⟨_, by simp [attempt, trialRequests, hopen, hname, hpath, hwanted],
                  fun htaken => ?_, .mismatched hopen rfl hname hwanted⟩
                exact hwanted (Except.ok.inj (hname.symm.trans (hsuits.mp htaken wanted rfl)))

/-! ## Rows of trials -/

variable (host driver)

/--
The log of a row of trials: every path is told before it is tried, and its verdict afterwards.
-/
inductive Trail : List String -> List Record -> Prop where
  | done : Trail [] []
  | step {path : String} {record : Record} {rest : List String} {records : List Record}
      (hverdict : host.Verdict driver path record) (hrest : Trail rest records) :
      Trail (path :: rest)
        (⟨.debug, .devices, "Trying to open " ++ path⟩ :: record :: records)

def tried : List String -> List String
  | [] => []
  | path :: rest =>
      match (host.attempt driver path).result with
      | some _ => [path]
      | none => path :: tried rest

/-- A search that ends with the first device that suits, or with none. -/
def EndsAtFirst (paths : List String) (result : Except DeviceFailure Device) : Prop :=
  (∃ before after device, paths = before ++ device.path :: after ∧
      (∀ path ∈ before, ¬host.Suits driver path) ∧ host.Suits driver device.path ∧
      host.openPath device.path = .ok device ∧ result = .ok device ∧
      host.tried driver paths = before ++ [device.path]) ∨
    (∀ path ∈ paths, ¬host.Suits driver path) ∧ result = .error (exhausted driver) ∧
      host.tried driver paths = paths

theorem openFirst_ends (paths : List String) :
    host.EndsAtFirst driver paths (host.openFirst driver paths).result ∧
      host.Trail driver (host.tried driver paths) (host.openFirst driver paths).records := by
  induction paths with
  | nil => exact ⟨.inr ⟨nofun, rfl, rfl⟩, .done⟩
  | cons path rest ih =>
      obtain ⟨device, record, hattempt, hopen, hsuits, hverdict⟩ |
        ⟨record, hattempt, hnot, hverdict⟩ := host.attempt_cases driver path
      · have hpath := path_of_openPath hopen
        have htried : host.tried driver (path :: rest) = [path] := by simp [tried, hattempt]
        rw [htried]
        simp only [openFirst, hattempt]
        refine ⟨.inl ⟨[], rest, device, ?_, nofun, ?_, ?_, rfl, ?_⟩, .step hverdict .done⟩
        · rw [hpath]
          rfl
        · rwa [hpath]
        · rwa [hpath]
        · rw [hpath, htried]
          rfl
      · obtain ⟨hends, htrail⟩ := ih
        have htried : host.tried driver (path :: rest) = path :: host.tried driver rest := by
          simp [tried, hattempt]
        have hcons : ∀ {paths : List String}, (∀ later ∈ paths, ¬host.Suits driver later) ->
            ∀ later ∈ path :: paths, ¬host.Suits driver later :=
          fun hpaths => List.forall_mem_cons.mpr ⟨hnot, hpaths⟩
        unfold EndsAtFirst
        rw [htried]
        simp only [openFirst, hattempt]
        refine ⟨?_, .step hverdict htrail⟩
        obtain ⟨before, after, device, hrest, hbefore, hsuits, hopen, hresult, hrow⟩ |
          ⟨hnone, hresult, hrow⟩ := hends
        · refine .inl ⟨path :: before, after, device, ?_, hcons hbefore, hsuits, hopen, hresult, ?_⟩
          · rw [hrest]
            rfl
          · rw [hrow]
            rfl
        · exact .inr ⟨hcons hnone, hresult, by rw [hrow]⟩

theorem EndsAtFirst.exists_device_iff {host : Host} {driver : Option String} {paths : List String}
    {result : Except DeviceFailure Device} (hends : host.EndsAtFirst driver paths result)
    (path : String) :
    (∃ device, result = .ok device ∧ device.path = path) ↔
      ∃ before after, paths = before ++ path :: after ∧
        (∀ earlier ∈ before, ¬host.Suits driver earlier) ∧ host.Suits driver path := by
  obtain ⟨before, after, device, hpaths, hbefore, hsuits, -, hresult, -⟩ |
    ⟨hnone, hresult, -⟩ := hends
  · constructor
    · rintro ⟨device', hdevice', rfl⟩
      rw [hresult] at hdevice'
      cases hdevice'
      exact ⟨before, after, hpaths, hbefore, hsuits⟩
    · rintro ⟨before', after', hpaths', hbefore', hsuits'⟩
      refine ⟨device, hresult, ?_⟩
      rw [hpaths, List.append_eq_append_iff] at hpaths'
      obtain ⟨between, hsplit, hrest⟩ | ⟨between, hsplit, hrest⟩ := hpaths'
      · cases between with
        | nil => exact (List.cons.inj hrest).1
        | cons first later =>
            have hfirst : device.path = first := (List.cons.inj hrest).1
            exact absurd (hfirst ▸ hsuits) (hbefore' first (by simp [hsplit]))
      · cases between with
        | nil => exact (List.cons.inj hrest).1.symm
        | cons first later =>
            have hfirst : path = first := (List.cons.inj hrest).1
            exact absurd (hfirst ▸ hsuits') (hbefore first (by simp [hsplit]))
  · constructor
    · rintro ⟨device', hdevice', -⟩
      exact absurd (hresult.symm.trans hdevice') nofun
    · rintro ⟨before', after', hpaths', -, hsuits'⟩
      exact absurd hsuits' (hnone path (by simp [hpaths']))

/-! ## What a search asks -/

theorem requests_openFirst (paths : List String) :
    (host.openFirst driver paths).requests =
      (host.tried driver paths).flatMap (host.trialRequests driver) := by
  induction paths with
  | nil => rfl
  | cons path rest ih =>
      obtain ⟨device, record, hattempt, -⟩ | ⟨record, hattempt, -⟩ :=
        host.attempt_cases driver path
      · simp [openFirst, tried, hattempt]
      · simp [openFirst, tried, hattempt, ih]

/-- Whether two hosts have the same reply to a request. -/
def Alike (host other : Host) : Request -> Prop
  | .directory => other.directory = host.directory
  | .node path =>
      (other.openPath path).map (fun _ => ()) = (host.openPath path).map fun _ => ()
  | .driver path =>
      (other.openPath path).map Device.driverName = (host.openPath path).map Device.driverName

variable {host other : Host} {driver : Option String}

theorem search_path (path : String) :
    host.search (some path) driver =
      ⟨host.openPath path, [.node path], [⟨.info, .devices, "Opening DRM device " ++ path⟩]⟩ := rfl

theorem search_of_cardPaths {paths : List String} (hpaths : host.cardPaths = .ok paths) :
    host.search none driver =
      ⟨(host.openFirst driver paths).result,
        .directory :: (host.openFirst driver paths).requests,
        foundRecord paths :: (host.openFirst driver paths).records⟩ := by
  simp [search, listDevices, findDevices, hpaths]

theorem search_of_no_cardPaths {failure : DeviceFailure}
    (hpaths : host.cardPaths = .error failure) :
    host.search none driver = ⟨.error failure, [.directory], []⟩ := by
  simp [search, listDevices, findDevices, hpaths]

/--
A device or a failure as it can be told from outside: nothing is read of a device but its path.
-/
def told (result : Except DeviceFailure Device) : Except DeviceFailure String :=
  result.map Device.path

theorem openPath_of_alike {path : String} (halike : host.Alike other (.node path)) :
    (∃ failure, host.openPath path = .error failure ∧ other.openPath path = .error failure) ∨
      ∃ device device', host.openPath path = .ok device ∧ other.openPath path = .ok device' ∧
        device'.path = device.path := by
  have hnode : (other.openPath path).map (fun _ => ()) = (host.openPath path).map fun _ => () :=
    halike
  cases hopen : host.openPath path with
  | error failure =>
      cases hopen' : other.openPath path with
      | error failure' =>
          have hsame : failure' = failure := by simpa [hopen, hopen', Except.map] using hnode
          exact .inl ⟨failure, rfl, by rw [hsame]⟩
      | ok device' => simp [hopen, hopen', Except.map] at hnode
  | ok device =>
      cases hopen' : other.openPath path with
      | error failure' => simp [hopen, hopen', Except.map] at hnode
      | ok device' =>
          have hpath := (path_of_openPath hopen').trans (path_of_openPath hopen).symm
          exact .inr ⟨device, device', rfl, rfl, hpath⟩

theorem attempt_of_alike {path : String}
    (halike : ∀ request ∈ host.trialRequests driver path, host.Alike other request) :
    (other.attempt driver path).result.map Device.path =
        (host.attempt driver path).result.map Device.path ∧
      (other.attempt driver path).records = (host.attempt driver path).records := by
  have hnode : host.Alike other (.node path) := by
    apply halike
    unfold trialRequests
    split <;> exact List.mem_cons_self
  obtain ⟨failure, hopen, hopen'⟩ | ⟨device, device', hopen, hopen', hpath⟩ :=
    openPath_of_alike hnode
  · simp [attempt, hopen, hopen']
  · cases driver with
    | none => simp [attempt, hopen, hopen', hpath]
    | some wanted =>
        have hdriver : host.Alike other (.driver path) := by
          apply halike
          simp [trialRequests, hopen]
        have hname : device'.driverName = device.driverName := by
          simpa [Alike, Except.map, hopen, hopen'] using hdriver
        simp only [attempt, Search.bind_eq, Search.note_eq, openNode_eq, Device.askDriver_eq,
          Search.bind_mk, hopen, hopen', hname]
        cases device.driverName with
        | error cause => exact ⟨rfl, rfl⟩
        | ok name => by_cases hwanted : name = wanted <;> simp [hwanted, hpath]

theorem openFirst_of_alike {paths : List String}
    (halike : ∀ request ∈ (host.openFirst driver paths).requests, host.Alike other request) :
    told (other.openFirst driver paths).result = told (host.openFirst driver paths).result ∧
      (other.openFirst driver paths).records = (host.openFirst driver paths).records := by
  induction paths with
  | nil => exact ⟨rfl, rfl⟩
  | cons path rest ih =>
      simp only [openFirst, Search.bind_eq, Search.bind, List.forall_mem_append] at halike ⊢
      obtain ⟨hfirst, hlater⟩ := halike
      have hrequests : (host.attempt driver path).requests = host.trialRequests driver path := by
        obtain ⟨device, record, hattempt, -⟩ | ⟨record, hattempt, -⟩ :=
          host.attempt_cases driver path <;> rw [hattempt]
      rw [hrequests] at hfirst
      obtain ⟨hpath, hrecords⟩ := attempt_of_alike hfirst
      rw [hrecords]
      cases hattempt : (host.attempt driver path).result with
      | some device =>
          rw [hattempt] at hpath
          obtain ⟨device', hdevice', hsame⟩ := Option.map_eq_some_iff.mp hpath
          simp [hdevice', told, Except.map, hsame]
      | none =>
          rw [hattempt] at hpath hlater
          obtain ⟨hresult, hrest⟩ := ih hlater
          rw [Option.map_eq_none_iff.mp hpath]
          exact ⟨hresult, by rw [hrest]⟩

/-- The outcome and the log of a search depend on nothing but what it asks. -/
theorem search_of_alike {device : Option String}
    (halike : ∀ request ∈ (host.search device driver).requests, host.Alike other request) :
    told (other.search device driver).result = told (host.search device driver).result ∧
      (other.search device driver).records = (host.search device driver).records := by
  cases device with
  | some path =>
      rw [search_path] at halike ⊢
      rw [search_path]
      refine ⟨?_, rfl⟩
      obtain ⟨failure, hopen, hopen'⟩ | ⟨device, device', hopen, hopen', hpath⟩ :=
        openPath_of_alike (halike (.node path) List.mem_cons_self)
      · rw [hopen, hopen']
      · simp [hopen, hopen', told, Except.map, hpath]
  | none =>
      have hdirectory : other.directory = host.directory := by
        refine halike .directory ?_
        cases hfound : host.cardPaths with
        | error failure => rw [search_of_no_cardPaths hfound]; exact List.mem_cons_self
        | ok paths => rw [search_of_cardPaths hfound]; exact List.mem_cons_self
      have hpaths : other.cardPaths = host.cardPaths := by rw [cardPaths, cardPaths, hdirectory]
      cases hfound : host.cardPaths with
      | error failure =>
          rw [search_of_no_cardPaths hfound, search_of_no_cardPaths (hpaths.trans hfound)]
          exact ⟨rfl, rfl⟩
      | ok paths =>
          rw [search_of_cardPaths hfound] at halike ⊢
          rw [search_of_cardPaths (hpaths.trans hfound)]
          obtain ⟨hresult, hrecords⟩ := openFirst_of_alike fun request hrequest =>
            halike request (List.mem_cons_of_mem _ hrequest)
          exact ⟨hresult, by rw [hrecords]⟩

/-! ## The whole search -/

theorem driver_not_mem_requests (host : Host) (path : String) :
    Request.driver path ∉ (host.search none none).requests := by
  have htrial : ∀ tried, host.trialRequests none tried = [.node tried] := by
    intro tried
    unfold trialRequests
    cases host.openPath tried <;> rfl
  cases hpaths : host.cardPaths with
  | error failure => simp [search_of_no_cardPaths hpaths]
  | ok paths => simp [search_of_cardPaths hpaths, requests_openFirst, htrial]

theorem chain_of_openPath {path : String} {failure : DeviceFailure}
    (hopen : host.openPath path = .error failure) :
    ∃ cause : IoError, failure.chain = ["Failed to open " ++ path, cause.message] := by
  have hnode : ∃ cause, failure = .node path cause := by
    unfold openPath at hopen
    split at hopen
    · exact ⟨_, (Except.error.inj hopen).symm⟩
    · split at hopen
      · exact absurd hopen nofun
      · exact ⟨_, (Except.error.inj hopen).symm⟩
      · exact ⟨_, (Except.error.inj hopen).symm⟩
  obtain ⟨cause, rfl⟩ := hnode
  exact ⟨cause, rfl⟩

/--
Without a path the device opened is the first that suits, in the order of the paths found.  If none
are found, nothing is opened; otherwise the log tells what was found and then the row of trials, up
to the device taken or through all paths.  Nothing else is asked of the host: no path behind the
device taken, and no driver unless one is wanted.  A given path is opened, and that is all.
-/
theorem openMatching_takes_first (host : Host) (driver : Option String) :
    let search := host.openMatching none driver
    let requests := fun device => (host.search device driver).requests
    (∀ path, (∃ device, search.1 = .ok device ∧ device.path = path) ↔
        ∃ paths before after, host.cardPaths = .ok paths ∧ paths = before ++ path :: after ∧
          (∀ earlier ∈ before, ¬host.Suits driver earlier) ∧ host.Suits driver path) ∧
      (∀ failure, host.cardPaths = .error failure ->
        search = (.error failure, []) ∧ requests none = [.directory]) ∧
      (∀ paths, host.cardPaths = .ok paths ->
        host.EndsAtFirst driver paths search.1 ∧
          (∃ records, search.2 = foundRecord paths :: records ∧
            host.Trail driver (host.tried driver paths) records) ∧
          requests none =
            .directory :: (host.tried driver paths).flatMap (host.trialRequests driver)) ∧
      (exhausted driver).chain =
        [match driver with
          | some name => "No DRM device driven by " ++ name ++ " found"
          | none => "No DRM device could be opened"] ∧
      (driver = none -> ∀ path, Request.driver path ∉ requests none) ∧
      (∀ path,
        host.openMatching (some path) driver =
            (host.openPath path, [⟨.info, .devices, "Opening DRM device " ++ path⟩]) ∧
          requests (some path) = [.node path] ∧
          ∀ failure, host.openPath path = .error failure ->
            ∃ cause : IoError, failure.chain = ["Failed to open " ++ path, cause.message]) ∧
      ∀ device other, (∀ request ∈ requests device, host.Alike other request) ->
        told (other.openMatching device driver).1 = told (host.openMatching device driver).1 ∧
          (other.openMatching device driver).2 = (host.openMatching device driver).2 := by
  intro search requests
  refine ⟨fun path => ?_, fun failure hpaths => ?_, fun paths hpaths => ?_, ?_, ?_, fun path => ?_,
    fun device other halike => search_of_alike halike⟩
  · cases hpaths : host.cardPaths with
    | error failure =>
        have hsearch : host.search none driver = _ := search_of_no_cardPaths hpaths
        simp [search, openMatching, hsearch]
    | ok paths =>
        have hsearch : host.search none driver = _ := search_of_cardPaths hpaths
        simp only [search, openMatching, hsearch]
        rw [(host.openFirst_ends driver paths).1.exists_device_iff path]
        constructor
        · rintro ⟨before, after, hsplit⟩
          exact ⟨paths, before, after, rfl, hsplit⟩
        · rintro ⟨_, before, after, ⟨⟩, hsplit⟩
          exact ⟨before, after, hsplit⟩
  · have hsearch : host.search none driver = _ := search_of_no_cardPaths hpaths
    exact ⟨by simp only [search, openMatching, hsearch], by simp only [requests, hsearch]⟩
  · have hsearch : host.search none driver = _ := search_of_cardPaths hpaths
    obtain ⟨hends, htrail⟩ := host.openFirst_ends driver paths
    simp only [search, requests, openMatching, hsearch, requests_openFirst]
    exact ⟨hends, ⟨_, rfl, htrail⟩, trivial⟩
  · cases driver <;> rfl
  · rintro rfl
    exact host.driver_not_mem_requests
  · exact ⟨rfl, rfl, fun failure hopen => chain_of_openPath hopen⟩

end Host

end DisplayInventory.Kernel
