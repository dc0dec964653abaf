import DisplayInventory.CommandLine
import DisplayInventory.Proofs.Text.Readback
import Mathlib.Data.List.Nodup

/-!
# The order of the device directory

A directory gives its entries in any order.  The devices found are the entries whose names are well
formed and begin like the name of a device, in the order of the bytes of their names, so that the
order of the directory can not be told from them, nor from anything that is made of them: the search
for a device and the whole run of the program know the directory by its devices alone.
-/

namespace DisplayInventory

namespace Text.Utf8

theorem decode?_eq_some_iff (bytes : List UInt8) (text : String) :
    decode? bytes = some text ↔ encode text = bytes := by
  unfold decode? String.fromUTF8?
  constructor
  · intro hdecode
    split at hdecode
    · rw [← Option.some.inj hdecode]
      rfl
    · exact absurd hdecode nofun
  · rintro rfl
    have hbytes : (⟨(encode text).toArray⟩ : ByteArray) = text.toByteArray := by
      simp [encode]
    rw [hbytes, dif_pos text.isValidUTF8]
    rfl

end Text.Utf8

namespace Path

theorem bytesNoLater_eq_le (first second : List UInt8) :
    bytesNoLater first second = decide (first ≤ second) := by
  induction first generalizing second with
  | nil => simp [bytesNoLater]
  | cons a first ih =>
      cases second with
      | nil => simp [bytesNoLater]
      | cons b second =>
          by_cases hab : a = b
          · simp [bytesNoLater, ih, List.cons_le_cons_iff, hab]
          · simp [bytesNoLater, List.cons_le_cons_iff, hab]

theorem eq_of_step?_eq_into {part : List Char} {name : String}
    (hstep : step? part = some (.into name)) : name = String.ofList part := by
  unfold step? at hstep
  split at hstep
  · exact absurd hstep nofun
  · exact absurd hstep nofun
  · exact absurd hstep nofun
  · cases hstep
    rfl

end Path

namespace Kernel

def pathOfName (name : String) : String :=
  devicePath ++ "/" ++ name

def isCardName (name : String) : Bool :=
  cardName.toList.isPrefixOf name.toList

theorem steps_pathOfName {name : String} (hplain : '/' ∉ name.toList) :
    Path.steps (pathOfName name) =
      [.into "dev", .into "dri"] ++ (Path.step? name.toList).toList := by
  have hlist : (pathOfName name).toList = devicePath.toList ++ '/' :: name.toList := by
    simp [pathOfName]
  have hdirectory : (Path.parts devicePath.toList).filterMap Path.step? =
      [.into "dev", .into "dri"] := by
    decide
  have hname : [name.toList].filterMap Path.step? = (Path.step? name.toList).toList := by
    cases hstep : Path.step? name.toList <;> simp [hstep]
  rw [Path.steps, hlist, Path.parts_append_slash, Path.parts_of_not_mem hplain,
    List.filterMap_append, hdirectory, hname]

/-- The name of a device is no way up and does not stand for the directory itself. -/
theorem step?_of_isCardName {name : String} (hcard : isCardName name = true) :
    Path.step? name.toList = some (.into name) := by
  obtain ⟨rest, hrest⟩ := List.isPrefixOf_iff_prefix.mp hcard
  have hletters : name.toList = 'c' :: 'a' :: 'r' :: 'd' :: rest := hrest.symm
  have hstep : Path.step? name.toList = some (.into (String.ofList name.toList)) := by
    rw [hletters]
    rfl
  rw [hstep, String.ofList_toList]

theorem isCardPath_pathOfName {name : String} (hplain : '/' ∉ name.toList) :
    isCardPath (pathOfName name) = isCardName name := by
  have hother : Path.step? name.toList ≠ some (.into name) -> isCardName name = false :=
    fun hstep => Bool.eq_false_iff.mpr fun hcard => hstep (step?_of_isCardName hcard)
  unfold isCardPath Path.fileName?
  rw [steps_pathOfName hplain]
  cases hstep : Path.step? name.toList with
  | none =>
      rw [hother (by simp [hstep])]
      decide
  | some step =>
      cases step with
      | up =>
          rw [hother (by simp [hstep])]
          rfl
      | into entry =>
          have hname : entry = name := by
            rw [Path.eq_of_step?_eq_into hstep, String.ofList_toList]
          rw [hname]
          rfl

/-- Devices are ordered by the bytes of their names. -/
theorem noLater_pathOfName {first second : String} (hfirst : isCardName first = true)
    (hsecond : isCardName second = true) (hplain : '/' ∉ first.toList)
    (hplain' : '/' ∉ second.toList) :
    Path.noLater (pathOfName first) (pathOfName second) =
      decide (Text.Utf8.encode first ≤ Text.Utf8.encode second) := by
  unfold Path.noLater
  rw [steps_pathOfName hplain, steps_pathOfName hplain', step?_of_isCardName hfirst,
    step?_of_isCardName hsecond]
  by_cases hsame : first = second
  · simp [Path.stepsNoLater, hsame]
  · simp [Path.stepsNoLater, hsame, Path.Step.noLater, Path.bytesNoLater_eq_le]

/-! ## The devices of a directory -/

def cardNames (entries : List (List UInt8)) : List String :=
  (entries.filterMap fun entry => Text.Utf8.decode? (beforeZero entry)).filter isCardName

def sortedNames (names : List String) : List String :=
  names.mergeSort fun first second =>
    decide (Text.Utf8.encode first ≤ Text.Utf8.encode second)

def slash : UInt8 :=
  0x2F

/-- Whether no entry has a slash in its name. -/
def Plain (entries : List (List UInt8)) : Prop :=
  ∀ entry ∈ entries, slash ∉ beforeZero entry

theorem mem_cardNames_iff (entries : List (List UInt8)) (name : String) :
    name ∈ cardNames entries ↔
      (∃ entry ∈ entries, Text.Utf8.encode name = beforeZero entry) ∧ isCardName name = true := by
  simp only [cardNames, List.mem_filter, List.mem_filterMap, Text.Utf8.decode?_eq_some_iff]

theorem slash_mem_encode {name : String} (hslash : '/' ∈ name.toList) :
    slash ∈ Text.Utf8.encode name := by
  have hchars : ∀ chars : List Char, '/' ∈ chars ->
      slash ∈ Text.Utf8.encode (String.ofList chars) := by
    intro chars hmem
    induction chars with
    | nil => exact absurd hmem List.not_mem_nil
    | cons c rest ih =>
        rw [Text.Utf8.encode_ofList_cons]
        obtain hfirst | hrest := List.mem_cons.mp hmem
        · have hbyte : slash ∈ String.utf8EncodeChar '/' := by decide
          exact List.mem_append_left _ (hfirst ▸ hbyte)
        · exact List.mem_append_right _ (ih hrest)
  have hname := hchars name.toList hslash
  rwa [String.ofList_toList] at hname

theorem Plain.not_mem_toList {entries : List (List UInt8)} (hplain : Plain entries)
    {entry : List UInt8} (hentry : entry ∈ entries) {name : String}
    (hname : Text.Utf8.decode? (beforeZero entry) = some name) : '/' ∉ name.toList := by
  intro hslash
  have hbytes := (Text.Utf8.decode?_eq_some_iff _ _).mp hname
  exact hplain entry hentry (hbytes ▸ slash_mem_encode hslash)

theorem join_devicePath {name : String} (hplain : '/' ∉ name.toList) :
    Path.join devicePath name = pathOfName name := by
  have hrelative : Path.isAbsolute name = false := by
    cases hname : name.toList with
    | nil => simp [Path.isAbsolute, hname]
    | cons first rest =>
        have hfirst : first ≠ '/' := fun hsame => hplain (by simp [hname, hsame])
        simp [Path.isAbsolute, hname, hfirst]
  simp [Path.join, hrelative, pathOfName]

/-- The devices found are those named by entries, in the order of their names. -/
theorem sortedCardPaths_eq {entries : List (List UInt8)} (hplain : Plain entries) :
    sortedCardPaths entries = (sortedNames (cardNames entries)).map pathOfName := by
  have hslash : ∀ name ∈ entries.filterMap fun entry => Text.Utf8.decode? (beforeZero entry),
      '/' ∉ name.toList := by
    intro name hname
    obtain ⟨entry, hentry, hdecode⟩ := List.mem_filterMap.mp hname
    exact hplain.not_mem_toList hentry hdecode
  have hpaths : entries.filterMap entryPath? =
      (entries.filterMap fun entry => Text.Utf8.decode? (beforeZero entry)).map pathOfName := by
    have hjoin := List.map_congr_left fun name hname => join_devicePath (hslash name hname)
    rw [← hjoin, List.map_filterMap]
    rfl
  have hcards : (entries.filterMap entryPath?).filter isCardPath =
      (cardNames entries).map pathOfName := by
    rw [hpaths, List.filter_map, cardNames]
    exact congrArg _ (List.filter_congr fun name hname => isCardPath_pathOfName (hslash name hname))
  have hcard : ∀ name ∈ cardNames entries, isCardName name = true ∧ '/' ∉ name.toList := by
    intro name hname
    obtain ⟨hmem, hbegins⟩ := List.mem_filter.mp hname
    exact ⟨hbegins, hslash name hmem⟩
  rw [sortedCardPaths, hcards, sortedNames, List.map_mergeSort]
  intro first hfirst second hsecond
  obtain ⟨hcard₁, hplain₁⟩ := hcard first hfirst
  obtain ⟨hcard₂, hplain₂⟩ := hcard second hsecond
  exact (noLater_pathOfName hcard₁ hcard₂ hplain₁ hplain₂).symm

theorem pairwise_sortedNames (names : List String) :
    (sortedNames names).Pairwise fun first second =>
      Text.Utf8.encode first ≤ Text.Utf8.encode second := by
  have hsorted : (sortedNames names).Pairwise fun first second =>
      decide (Text.Utf8.encode first ≤ Text.Utf8.encode second) = true := by
    apply List.pairwise_mergeSort
    · intro first second third hfirst hsecond
      have hle := List.le_trans (of_decide_eq_true hfirst) (of_decide_eq_true hsecond)
      exact decide_eq_true hle
    · intro first second
      simpa using List.le_total (Text.Utf8.encode first) (Text.Utf8.encode second)
  exact hsorted.imp fun hle => of_decide_eq_true hle

/-- Names in order do not depend on the order in which they came. -/
theorem sortedNames_eq_of_perm {names names' : List String} (hperm : names.Perm names') :
    sortedNames names = sortedNames names' := by
  refine List.Perm.eq_of_pairwise (fun first second _ _ hle hge => ?_) (pairwise_sortedNames names)
    (pairwise_sortedNames names') ?_
  · exact Text.Utf8.encode_injective (List.le_antisymm hle hge)
  · exact (List.mergeSort_perm names _).trans (hperm.trans (List.mergeSort_perm names' _).symm)

theorem sortedCardPaths_eq_of_perm {entries entries' : List (List UInt8)} (hplain : Plain entries)
    (hperm : entries.Perm entries') : sortedCardPaths entries = sortedCardPaths entries' := by
  have hplain' : Plain entries' := fun entry hentry => hplain entry (hperm.mem_iff.mpr hentry)
  have hnames : (cardNames entries).Perm (cardNames entries') :=
    (hperm.filterMap _).filter isCardName
  rw [sortedCardPaths_eq hplain, sortedCardPaths_eq hplain', sortedNames_eq_of_perm hnames]

theorem nodup_cardNames {entries : List (List UInt8)}
    (hdistinct : (entries.map beforeZero).Nodup) : (cardNames entries).Nodup := by
  have hdecode : ∀ bytes bytes' : List UInt8, ∀ name ∈ Text.Utf8.decode? bytes,
      name ∈ Text.Utf8.decode? bytes' -> bytes = bytes' := by
    intro bytes bytes' name hname hname'
    have hbytes := (Text.Utf8.decode?_eq_some_iff bytes name).mp hname
    have hbytes' := (Text.Utf8.decode?_eq_some_iff bytes' name).mp hname'
    exact hbytes.symm.trans hbytes'
  have hnames := hdistinct.filterMap hdecode
  rw [List.filterMap_map] at hnames
  exact hnames.filter _

theorem strictlySorted_sortedNames {names : List String} (hdistinct : names.Nodup) :
    (sortedNames names).Pairwise fun first second =>
      Text.Utf8.encode first < Text.Utf8.encode second := by
  have hnodup : (sortedNames names).Nodup :=
    (List.mergeSort_perm names _).nodup_iff.mpr hdistinct
  refine (pairwise_sortedNames names).imp₂ ?_ hnodup
  intro first second hle hne
  obtain hlt | hsame := List.le_iff_lt_or_eq.mp hle
  · exact hlt
  · exact absurd (Text.Utf8.encode_injective hsame) hne

/-! ## Hosts with the same entries -/

namespace DeviceDirectory

/-- Whether entries are named as in a directory: no two alike, and none with a slash in its name. -/
def WellNamed : DeviceDirectory -> Prop
  | .entries names _ => (names.map beforeZero).Nodup ∧ Plain names
  | _ => True

/-- Whether two directories differ in nothing but the order of their entries. -/
def Reordered (directory other : DeviceDirectory) : Prop :=
  directory = other ∨
    ∃ names names' interruption, names.Perm names' ∧
      directory = .entries names interruption ∧ other = .entries names' interruption

end DeviceDirectory

namespace Host

variable {host other : Host}

theorem findDevices_of_entries {entries : List (List UInt8)}
    (hentries : host.directory = .entries entries none) :
    host.findDevices =
      (.ok (sortedCardPaths entries), [foundRecord (sortedCardPaths entries)]) := by
  simp [findDevices, cardPaths, hentries]

theorem findDevices_of_unread (hunread : ∀ entries, host.directory ≠ .entries entries none) :
    ∃ failure, host.findDevices = (.error failure, []) := by
  unfold findDevices cardPaths
  cases hdirectory : host.directory with
  | absent => exact ⟨_, rfl⟩
  | unreadable errno => exact ⟨_, rfl⟩
  | entries names interruption =>
      cases interruption with
      | none => exact absurd hdirectory (hunread names)
      | some errno => exact ⟨_, rfl⟩

theorem cardPaths_of_reordered (hnamed : host.directory.WellNamed)
    (hreordered : host.directory.Reordered other.directory) : other.cardPaths = host.cardPaths := by
  obtain hsame | ⟨names, names', interruption, hperm, hnames, hnames'⟩ := hreordered
  · rw [cardPaths, cardPaths, hsame]
  · rw [hnames] at hnamed
    rw [cardPaths, cardPaths, hnames, hnames']
    cases interruption with
    | some errno => rfl
    | none => exact congrArg Except.ok (sortedCardPaths_eq_of_perm hnamed.2 hperm).symm

theorem findDevices_of_cardPaths (hpaths : other.cardPaths = host.cardPaths) :
    other.findDevices = host.findDevices := by
  rw [findDevices, findDevices, hpaths]

theorem openPath_of_nodes (hnodes : other.nodes = host.nodes) : other.openPath = host.openPath := by
  funext path
  rw [openPath, openPath, hnodes]

theorem openFirst_of_nodes (hnodes : other.nodes = host.nodes) (driver : Option String)
    (paths : List String) : other.openFirst driver paths = host.openFirst driver paths := by
  have hattempt : other.attempt driver = host.attempt driver := by
    funext path
    simp only [attempt, openNode_eq, openPath_of_nodes hnodes]
  induction paths with
  | nil => rfl
  | cons path rest ih => rw [openFirst, openFirst, hattempt, ih]

/-- The search for a device knows the directory by the paths found in it. -/
theorem openMatching_of_cardPaths_eq (hnodes : other.nodes = host.nodes)
    (hpaths : other.cardPaths = host.cardPaths) (device driver : Option String) :
    other.openMatching device driver = host.openMatching device driver := by
  have hsearch : other.search device driver = host.search device driver := by
    cases device with
    | some path => simp [search, openPath_of_nodes hnodes]
    | none =>
        have hlist : other.listDevices = host.listDevices := by
          rw [listDevices, listDevices, findDevices_of_cardPaths hpaths]
        simp [search, hlist, openFirst_of_nodes hnodes]
  rw [openMatching, openMatching, hsearch]

end Host

end Kernel

namespace CommandLine

variable {host other : Kernel.Host}

/-- The program knows a host by the devices that it opens. -/
theorem transcript_of_openMatching
    (hopen : ∀ device driver, other.openMatching device driver = host.openMatching device driver)
    (options : Options) : transcript other options = transcript host options := by
  have happlication : application other options = application host options := by
    rw [application, application, hopen]
  rw [transcript, transcript, happlication]

theorem run_of_transcript
    (htranscript : ∀ options, transcript other options = transcript host options)
    (arguments : List String) (setting : Option String) (files : WorkingDirectory) :
    run other arguments setting files = run host arguments setting files := by
  unfold run
  simp only [htranscript]

end CommandLine

namespace Kernel

/--
A directory that can be read to its end tells every device once, in strictly ascending order of the
bytes of the names: the entries whose names are well formed and begin like a device.  One that can
not tells none and leaves no record.  In which order the entries come makes no difference to the
devices, to the search for one of them, or to a run of the program, its log included.
-/
theorem directory_order_irrelevant (host : Host) (hnamed : host.directory.WellNamed) :
    (∀ entries, host.directory = .entries entries none ->
      ∃ names : List String,
        let paths := names.map fun name => devicePath ++ "/" ++ name
        host.findDevices = (.ok paths, [foundRecord paths]) ∧
          names.Pairwise (fun first second =>
            Text.Utf8.encode first < Text.Utf8.encode second) ∧
          ∀ name, name ∈ names ↔
            (∃ entry ∈ entries, Text.Utf8.encode name = beforeZero entry) ∧
              "card".toList <+: name.toList) ∧
      ((∀ entries, host.directory ≠ .entries entries none) ->
        ∃ failure, host.findDevices = (.error failure, [])) ∧
      ∀ other : Host, other.nodes = host.nodes -> host.directory.Reordered other.directory ->
        other.findDevices = host.findDevices ∧
          (∀ device driver, other.openMatching device driver = host.openMatching device driver) ∧
          (∀ options, CommandLine.transcript other options = CommandLine.transcript host options) ∧
          ∀ arguments setting files,
            CommandLine.run other arguments setting files =
              CommandLine.run host arguments setting files := by
  refine ⟨fun entries hentries => ?_, Host.findDevices_of_unread, fun other hnodes hreordered => ?_⟩
  · rw [hentries] at hnamed
    obtain ⟨hdistinct, hplain⟩ := hnamed
    refine ⟨sortedNames (cardNames entries), ?_,
      strictlySorted_sortedNames (nodup_cardNames hdistinct), fun name => ?_⟩
    · have hpaths : sortedCardPaths entries =
          (sortedNames (cardNames entries)).map fun name => devicePath ++ "/" ++ name :=
        sortedCardPaths_eq hplain
      rw [← hpaths]
      exact Host.findDevices_of_entries hentries
    · rw [sortedNames, (List.mergeSort_perm _ _).mem_iff, mem_cardNames_iff, isCardName,
        List.isPrefixOf_iff_prefix]
      rfl
  · have hpaths := Host.cardPaths_of_reordered hnamed hreordered
    have hopen := Host.openMatching_of_cardPaths_eq hnodes hpaths
    have htranscript := CommandLine.transcript_of_openMatching hopen
    exact ⟨Host.findDevices_of_cardPaths hpaths, hopen, htranscript,
      CommandLine.run_of_transcript htranscript⟩

/-- A directory of two devices, a name that is not well formed and another device, turned around. -/
theorem directory_turned_around :
    let entries := [Text.Utf8.encode "card10", [0xFF], Text.Utf8.encode "renderD128",
      Text.Utf8.encode "card1"]
    let host : Host := { directory := .entries entries none }
    let other : Host := { directory := .entries entries.reverse none }
    host.directory.WellNamed ∧ host.directory.Reordered other.directory ∧
      other.findDevices = host.findDevices ∧
      ∃ names : List String,
        host.findDevices.1 = .ok (names.map fun name => devicePath ++ "/" ++ name) ∧
        names.Pairwise fun first second => Text.Utf8.encode first < Text.Utf8.encode second := by
  intro entries host other
  have hnamed : host.directory.WellNamed := ⟨by decide, by unfold Plain; decide⟩
  have hreordered : host.directory.Reordered other.directory :=
    .inr ⟨entries, entries.reverse, none, entries.reverse_perm.symm, rfl, rfl⟩
  obtain ⟨hfound, -, hother⟩ := directory_order_irrelevant host hnamed
  obtain ⟨names, hnames, hsorted, -⟩ := hfound entries rfl
  exact ⟨hnamed, hreordered, (hother other rfl hreordered).1, names, by rw [hnames], hsorted⟩

end Kernel

end DisplayInventory
