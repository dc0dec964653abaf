import DisplayInventory.Options.Parse

/-!
# Groups of arguments

A command line can be read in one look.  It falls into groups, each of which is an argument by
itself or an option with the argument behind it as its value, and the options are told from the
groups: from the flags among them, from the last value of every setting, and from what is left over.
That the reading from left to right comes to the same is the main statement.  The invariant is what
the options read so far and the groups to come tell together.
-/

namespace DisplayInventory

inductive Switch where
  | framebuffers
  | edid
  | crtcs
  | modes
  | encoders
  | fullModes
  | fullProps
  | connectors
  deriving DecidableEq

namespace Switch

def standard : List Switch :=
  [.framebuffers, .edid, .crtcs, .modes, .encoders, .connectors]

def flags : List (String × List Switch) :=
  [("-fb", [.framebuffers]),
   ("-crtcs", [.crtcs]),
   ("-cons", [.connectors, .modes]),
   ("-modes", [.connectors, .modes]),
   ("-full", [.connectors, .modes, .fullModes]),
   ("-props", [.connectors, .fullProps]),
   ("-edids", [.connectors, .edid]),
   ("-encoders", [.encoders]),
   ("-v", [.framebuffers, .edid, .crtcs, .modes, .encoders, .fullModes, .fullProps, .connectors])]

def ofFlag? (argument : String) : Option (List Switch) :=
  flags.lookup argument

end Switch

namespace Setting

def spellings : Setting -> List String
  | .device => ["-D", "--device"]
  | .driver => ["-M", "--module"]
  | .logFile => ["--log-file"]

def ofOption? (option : String) : Option Setting :=
  [device, driver, logFile].find? fun setting => option ∈ setting.spellings

end Setting

def takesValue (argument : String) : Bool :=
  (Setting.ofOption? argument).isSome

/-- Arguments that are read together. -/
inductive ArgumentGroup where
  | alone (argument : String)
  | valued (option value : String)
  deriving DecidableEq

namespace ArgumentGroup

def arguments : ArgumentGroup -> List String
  | .alone argument => [argument]
  | .valued option value => [option, value]

/-- Cuts arguments into groups: an option takes whatever is behind it as its value. -/
def cut : List String -> List ArgumentGroup
  | [] => []
  | [last] => [.alone last]
  | first :: second :: rest =>
      if takesValue first then .valued first second :: cut rest
      else .alone first :: cut (second :: rest)

def switches? : ArgumentGroup -> Option (List Switch)
  | .alone argument => Switch.ofFlag? argument
  | .valued _ _ => none

def valueFor? (setting : Setting) : ArgumentGroup -> Option String
  | .alone _ => none
  | .valued option value => if Setting.ofOption? option = some setting then some value else none

def isKnown (argument : String) : Bool :=
  argument ∈ ["-h", "--help", "-current", "-debug"] || (Switch.ofFlag? argument).isSome ||
    takesValue argument

/-- An argument by itself that is unknown, or that lacks its value. -/
def notUnderstood? : ArgumentGroup -> Option String
  | .alone argument => if takesValue argument || !isKnown argument then some argument else none
  | .valued _ _ => none

/-! ## Where groups end -/

theorem cut_alone_cons {argument : String} (halone : takesValue argument = false)
    (rest : List String) : cut (argument :: rest) = .alone argument :: cut rest := by
  cases rest with
  | nil => rfl
  | cons second rest => simp [cut, halone]

theorem flatMap_arguments_cut (line : List String) : (cut line).flatMap arguments = line := by
  fun_induction cut line with
  | case1 => rfl
  | case2 last => rfl
  | case3 first second rest htakes ih => simp [arguments, ih]
  | case4 first second rest htakes ih => simp [arguments, ih]

theorem takesValue_of_valued_mem {line : List String} {option value : String}
    (hmem : .valued option value ∈ cut line) : takesValue option = true := by
  fun_induction cut line with
  | case1 => exact absurd hmem List.not_mem_nil
  | case2 last => simp at hmem
  | case3 first second rest htakes ih =>
      rcases List.mem_cons.mp hmem with hfirst | hrest
      · cases hfirst
        exact htakes
      · exact ih hrest
  | case4 first second rest htakes ih =>
      rcases List.mem_cons.mp hmem with hfirst | hrest
      · cases hfirst
      · exact ih hrest

/-- An option stands by itself at the very end only. -/
theorem eq_nil_of_cut_eq {line : List String} {earlier later : List ArgumentGroup}
    {option : String} (hcut : cut line = earlier ++ .alone option :: later)
    (htakes : takesValue option = true) : later = [] := by
  fun_induction cut line generalizing earlier with
  | case1 => simp at hcut
  | case2 last =>
      rcases List.cons_eq_append_iff.mp hcut with ⟨-, hlast⟩ | ⟨earlier', -, hrest⟩
      · exact (List.cons.inj hlast).2
      · simp at hrest
  | case3 first second rest hfirst ih =>
      rcases List.cons_eq_append_iff.mp hcut with ⟨-, hgroup⟩ | ⟨earlier', -, hrest⟩
      · cases (List.cons.inj hgroup).1
      · exact ih hrest
  | case4 first second rest hfirst ih =>
      rcases List.cons_eq_append_iff.mp hcut with ⟨-, hgroup⟩ | ⟨earlier', -, hrest⟩
      · cases (List.cons.inj hgroup).1
        exact absurd htakes hfirst
      · exact ih hrest

def Closed (line : List String) : Prop :=
  ∀ option, .alone option ∈ cut line -> takesValue option = false

theorem cut_append {before : List String} (hclosed : Closed before) (after : List String) :
    cut (before ++ after) = cut before ++ cut after := by
  unfold Closed at hclosed
  fun_induction cut before with
  | case1 => rfl
  | case2 last => exact cut_alone_cons (hclosed last List.mem_cons_self) after
  | case3 first second rest htakes ih =>
      have hrest := ih fun option hoption => hclosed option (List.mem_cons_of_mem _ hoption)
      simp [cut, htakes, hrest]
  | case4 first second rest htakes ih =>
      have hrest := ih fun option hoption => hclosed option (List.mem_cons_of_mem _ hoption)
      rw [List.cons_append, cut_alone_cons (by simpa using htakes), hrest]
      rfl

end ArgumentGroup

/-! ## Spellings -/

def Choice.switches : Choice -> List Switch
  | .framebuffers => [.framebuffers]
  | .crtcs => [.crtcs]
  | .modes => [.connectors, .modes]
  | .fullModes => [.connectors, .modes, .fullModes]
  | .properties => [.connectors, .fullProps]
  | .edids => [.connectors, .edid]
  | .encoders => [.encoders]
  | .everything =>
      [.framebuffers, .edid, .crtcs, .modes, .encoders, .fullModes, .fullProps, .connectors]

namespace Argument

def switches? : Argument -> Option (List Switch)
  | .choice chosen => some chosen.switches
  | _ => none

def setting? : Argument -> Option Setting
  | .setting given => some given
  | _ => none

theorem ofFlag?_eq (argument : String) :
    Switch.ofFlag? argument = (ofText argument).switches? := by
  unfold ofText
  split
  case h_19 =>
    apply List.lookup_eq_none_iff.mpr
    simp only [Switch.flags, List.forall_mem_cons, bne_iff_ne]
    refine ⟨?_, ?_, ?_, ?_, ?_, ?_, ?_, ?_, ?_, nofun⟩ <;> assumption
  all_goals rfl

theorem ofOption?_eq (argument : String) :
    Setting.ofOption? argument = (ofText argument).setting? := by
  unfold ofText
  split
  case h_19 =>
    apply List.find?_eq_none.mpr
    simp only [List.forall_mem_cons]
    simp only [Setting.spellings, decide_eq_true_eq, List.mem_cons, List.not_mem_nil, or_false,
      not_or]
    refine ⟨⟨?_, ?_⟩, ⟨?_, ?_⟩, ?_, nofun⟩ <;> assumption
  all_goals rfl

theorem ofText_eq_help_iff (argument : String) :
    ofText argument = .help ↔ argument = "-h" ∨ argument = "--help" := by
  constructor
  · intro hhelp
    unfold ofText at hhelp
    split at hhelp <;> cases hhelp
    · exact .inl rfl
    · exact .inr rfl
  · rintro (rfl | rfl) <;> rfl

theorem ofText_eq_current_iff (argument : String) :
    ofText argument = .current ↔ argument = "-current" := by
  constructor
  · intro hcurrent
    unfold ofText at hcurrent
    split at hcurrent <;> cases hcurrent
    rfl
  · rintro rfl
    rfl

theorem ofText_eq_debug_iff (argument : String) :
    ofText argument = .debug ↔ argument = "-debug" := by
  constructor
  · intro hdebug
    unfold ofText at hdebug
    split at hdebug <;> cases hdebug
    rfl
  · rintro rfl
    rfl

end Argument

namespace ArgumentGroup

theorem switches?_alone (argument : String) :
    switches? (.alone argument) = (Argument.ofText argument).switches? :=
  Argument.ofFlag?_eq argument

theorem notUnderstood?_alone (argument : String) :
    notUnderstood? (.alone argument) =
      match Argument.ofText argument with
      | .setting _ | .unknown => some argument
      | _ => none := by
  have hhelp := Argument.ofText_eq_help_iff argument
  have hcurrent := Argument.ofText_eq_current_iff argument
  have hdebug := Argument.ofText_eq_debug_iff argument
  simp only [notUnderstood?, isKnown, takesValue, Argument.ofFlag?_eq, Argument.ofOption?_eq]
  cases hmeaning : Argument.ofText argument <;> rw [hmeaning] at hhelp hcurrent hdebug <;>
    simp_all [Argument.switches?, Argument.setting?]

end ArgumentGroup

namespace Options

open ArgumentGroup

/-! ## Options told from groups -/

def asksHelp (groups : List ArgumentGroup) : Bool :=
  .alone "-h" ∈ groups || .alone "--help" ∈ groups

def switchedOn (groups : List ArgumentGroup) (switch : Switch) : Bool :=
  match groups.filterMap switches? with
  | [] => switch ∈ Switch.standard
  | chosen => chosen.any (switch ∈ ·)

def lastValue (groups : List ArgumentGroup) (setting : Setting) : Option String :=
  (groups.filterMap (valueFor? setting)).getLast?

/-- The options that groups of arguments tell, unless they ask for help. -/
def ofGroups (groups : List ArgumentGroup) : Option Options :=
  if asksHelp groups then none
  else some
    { framebuffers := switchedOn groups .framebuffers
      edid := switchedOn groups .edid
      crtcs := switchedOn groups .crtcs
      modes := switchedOn groups .modes
      encoders := switchedOn groups .encoders
      fullModes := switchedOn groups .fullModes
      fullProps := switchedOn groups .fullProps
      connectors := switchedOn groups .connectors
      current := .alone "-current" ∈ groups
      debugModes := .alone "-debug" ∈ groups
      device := lastValue groups .device
      driver := lastValue groups .driver
      logFile := lastValue groups .logFile
      ignored := groups.filterMap notUnderstood? }

def gather (options : Options) (groups : List ArgumentGroup) : Options :=
  let switched := fun switch => (groups.filterMap switches?).any (switch ∈ ·)
  { framebuffers := options.framebuffers || switched .framebuffers
    edid := options.edid || switched .edid
    crtcs := options.crtcs || switched .crtcs
    modes := options.modes || switched .modes
    encoders := options.encoders || switched .encoders
    fullModes := options.fullModes || switched .fullModes
    fullProps := options.fullProps || switched .fullProps
    connectors := options.connectors || switched .connectors
    current := options.current || .alone "-current" ∈ groups
    debugModes := options.debugModes || .alone "-debug" ∈ groups
    device := (lastValue groups .device).or options.device
    driver := (lastValue groups .driver).or options.driver
    logFile := (lastValue groups .logFile).or options.logFile
    ignored := options.ignored ++ groups.filterMap notUnderstood? }

/-- What options read so far and groups to come tell together, if a flag was among those read. -/
def conclude (options : Options) (chosen : Bool) (groups : List ArgumentGroup) : Option Options :=
  if asksHelp groups then none
  else if chosen || !(groups.filterMap switches?).isEmpty then some (options.gather groups)
  else some (options.gather groups).withStandard

theorem lastValue_append (first second : List ArgumentGroup) (setting : Setting) :
    lastValue (first ++ second) setting =
      (lastValue second setting).or (lastValue first setting) := by
  simp [lastValue, List.getLast?_append]

theorem gather_append (options : Options) (first second : List ArgumentGroup) :
    options.gather (first ++ second) = (options.gather first).gather second := by
  simp [gather, lastValue_append, Option.or_assoc, Bool.or_assoc, List.any_append, Bool.decide_or]

theorem gather_cons (options : Options) (group : ArgumentGroup) (rest : List ArgumentGroup) :
    options.gather (group :: rest) = (options.gather [group]).gather rest :=
  options.gather_append [group] rest

def takeAlone (options : Options) (argument : String) : Argument -> Options
  | .help => options
  | .choice chosen => options.choose chosen
  | .current => { options with current := true }
  | .debug => { options with debugModes := true }
  | .setting _ | .unknown => options.ignore argument

theorem gather_alone (options : Options) (argument : String) :
    options.gather [.alone argument] = options.takeAlone argument (Argument.ofText argument) := by
  have hcurrent : "-current" = argument ↔ Argument.ofText argument = .current :=
    eq_comm.trans (Argument.ofText_eq_current_iff argument).symm
  have hdebug : "-debug" = argument ↔ Argument.ofText argument = .debug :=
    eq_comm.trans (Argument.ofText_eq_debug_iff argument).symm
  have hvalue : ∀ setting, lastValue [.alone argument] setting = none := fun _ => rfl
  simp only [gather, hvalue, List.filterMap_cons, List.filterMap_nil, notUnderstood?_alone,
    switches?_alone, List.mem_singleton, ArgumentGroup.alone.injEq, hcurrent, hdebug]
  cases hmeaning : Argument.ofText argument with
  | choice chosen =>
      cases chosen <;>
        simp [Argument.switches?, takeAlone, Choice.switches, choose, withStandard]
  | _ => simp [Argument.switches?, takeAlone, ignore]

theorem gather_valued (options : Options) {option : String} {setting : Setting}
    (hoption : Setting.ofOption? option = some setting) (value : String) :
    options.gather [.valued option value] = options.assign setting value := by
  simp only [gather, lastValue, List.filterMap_cons, List.filterMap_nil, switches?, valueFor?,
    notUnderstood?, hoption]
  cases setting <;> simp [assign]

/-! ## The reading from left to right -/

theorem read_valued (options : Options) (chosen : Bool) {option : String}
    (hoption : takesValue option = true) (value : String) (rest : List String) :
    options.read chosen (option :: value :: rest) =
      (options.gather [.valued option value]).read chosen rest := by
  obtain ⟨setting, hsetting⟩ := Option.isSome_iff_exists.mp hoption
  rw [options.gather_valued hsetting]
  rw [Argument.ofOption?_eq] at hsetting
  cases hmeaning : Argument.ofText option with
  | setting given =>
      rw [hmeaning] at hsetting
      cases hsetting
      rw [read, hmeaning]
  | _ =>
      rw [hmeaning] at hsetting
      exact absurd hsetting nofun

theorem read_alone (options : Options) (chosen : Bool) {argument : String} {rest : List String}
    (halone : takesValue argument = true -> rest = []) :
    options.read chosen (argument :: rest) =
      if Argument.ofText argument = .help then none
      else (options.gather [.alone argument]).read
        (chosen || (switches? (.alone argument)).isSome) rest := by
  rw [gather_alone, switches?_alone, read]
  cases hmeaning : Argument.ofText argument with
  | setting given =>
      have htakes : takesValue argument = true := by
        rw [takesValue, Argument.ofOption?_eq, hmeaning]
        rfl
      rw [halone htakes]
      simp [takeAlone, Argument.switches?]
  | _ => simp [takeAlone, Argument.switches?]

theorem conclude_alone_cons (options : Options) (chosen : Bool) (argument : String)
    (rest : List ArgumentGroup) :
    options.conclude chosen (.alone argument :: rest) =
      if Argument.ofText argument = .help then none
      else (options.gather [.alone argument]).conclude
        (chosen || (switches? (.alone argument)).isSome) rest := by
  have hasks : asksHelp (.alone argument :: rest) =
      (decide (Argument.ofText argument = .help) || asksHelp rest) := by
    simp only [asksHelp, List.mem_cons, ArgumentGroup.alone.injEq, eq_comm (b := argument),
      Argument.ofText_eq_help_iff]
    grind
  unfold conclude
  rw [hasks, gather_cons options _ rest]
  by_cases hhelp : Argument.ofText argument = .help
  · simp [hhelp]
  · cases hflag : switches? (.alone argument) <;> simp [hhelp, hflag]

theorem conclude_valued_cons (options : Options) (chosen : Bool) (option value : String)
    (rest : List ArgumentGroup) :
    options.conclude chosen (.valued option value :: rest) =
      (options.gather [.valued option value]).conclude chosen rest := by
  have hasks : asksHelp (.valued option value :: rest) = asksHelp rest := by
    simp [asksHelp]
  unfold conclude
  rw [hasks, gather_cons options _ rest]
  rfl

theorem read_nil (options : Options) (chosen : Bool) :
    options.read chosen [] = options.conclude chosen [] := by
  cases chosen <;> simp [read, conclude, asksHelp, gather, lastValue]

theorem read_eq_conclude (options : Options) (chosen : Bool) (line : List String) :
    options.read chosen line = options.conclude chosen (cut line) := by
  fun_induction cut line generalizing options chosen with
  | case1 => exact options.read_nil chosen
  | case2 last =>
      rw [read_alone options chosen fun _ => rfl, conclude_alone_cons, read_nil]
  | case3 first second rest htakes ih =>
      rw [read_valued options chosen htakes, conclude_valued_cons, ih]
  | case4 first second rest htakes ih =>
      rw [read_alone options chosen fun htaken => absurd htaken htakes, conclude_alone_cons, ih]

theorem conclude_nothing (groups : List ArgumentGroup) :
    ({} : Options).conclude false groups = ofGroups groups := by
  unfold conclude ofGroups switchedOn
  cases hflags : groups.filterMap switches? with
  | nil => simp [gather, withStandard, hflags, Switch.standard]
  | cons first rest => simp [gather, hflags]

theorem parse_eq_cut (line : List String) : parse line = ofGroups (cut (line.drop 1)) := by
  unfold parse
  rw [read_eq_conclude, conclude_nothing]

/--
The options of a command line are told from its groups.  The groups are the arguments behind the
name of the program, of which none is lost; an option has a value if and only if anything is behind
it.
-/
theorem parse_eq_ofGroups (line : List String) :
    let groups := cut (line.drop 1)
    parse line = ofGroups groups ∧
      groups.flatMap ArgumentGroup.arguments = line.drop 1 ∧
      (∀ option value, .valued option value ∈ groups -> takesValue option = true) ∧
      ∀ earlier option later, groups = earlier ++ .alone option :: later ->
        takesValue option = true -> later = [] := by
  intro groups
  exact ⟨parse_eq_cut line, flatMap_arguments_cut _, fun _ _ hmem => takesValue_of_valued_mem hmem,
    fun _ _ _ hgroups htakes => eq_nil_of_cut_eq hgroups htakes⟩

/-- An option swallows a request for help, and the flag behind it counts again. -/
example : parse ["kmsprint", "-D", "-h", "-fb", "-M"] =
    some { framebuffers := true, device := some "-h", ignored := ["-M"] } := by
  decide

/-! ## The debug style -/

theorem ofGroups_debug (earlier later : List ArgumentGroup) :
    ofGroups (earlier ++ .alone "-debug" :: later) =
      (ofGroups (earlier ++ later)).map fun options => { options with debugModes := true } := by
  have hflag : switches? (.alone "-debug") = none := rfl
  have hvalue : ∀ setting, valueFor? setting (.alone "-debug") = none := fun _ => rfl
  have hunderstood : notUnderstood? (.alone "-debug") = none := by decide
  have hhelp : asksHelp (earlier ++ .alone "-debug" :: later) = asksHelp (earlier ++ later) := by
    simp [asksHelp]
  unfold ofGroups switchedOn lastValue
  rw [hhelp]
  cases asksHelp (earlier ++ later) with
  | true => rfl
  | false => simp [List.filterMap_append, hflag, hvalue, hunderstood]

/-- To ask for the debug style changes nothing else that is asked for. -/
theorem parse_insert_debug (program : String) {before : List String} (hclosed : Closed before)
    (after : List String) :
    parse (program :: (before ++ "-debug" :: after)) =
      (parse (program :: (before ++ after))).map fun options =>
        { options with debugModes := true } := by
  have halone : takesValue "-debug" = false := by decide
  simp only [parse_eq_cut, List.drop_succ_cons, List.drop_zero, cut_append hclosed,
    cut_alone_cons halone, ofGroups_debug]

end Options

end DisplayInventory
