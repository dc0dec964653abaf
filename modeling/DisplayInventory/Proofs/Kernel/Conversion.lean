import DisplayInventory.Kernel.Device

/-!
# What raw objects stand for

The kernel holds raw objects, and a report reads snapshots of them.  Here is what snapshot a raw
object stands for, told without the way in which a device answers: which bytes of a field are its
name, which bits of the flags are kept, which values belong to the listed properties, and when a
controller has a mode.  What a device reports is exactly that.
-/

namespace DisplayInventory.Kernel

/-- The text of a name: of at most thirty-two bytes those before the first zero. -/
def nameText (name : List UInt8) : String :=
  Text.Utf8.decode ((name.take 32).takeWhile (· != 0))

theorem beforeZero_append_zeros (bytes : List UInt8) (count : Nat) :
    beforeZero (bytes ++ List.replicate count 0) = bytes.takeWhile (· != 0) := by
  induction bytes with
  | nil => cases count <;> simp [beforeZero, List.replicate_succ]
  | cons byte rest ih =>
      by_cases hzero : byte = 0
      · simp [beforeZero, hzero]
      · simpa [beforeZero, hzero] using ih

theorem readName_nameField (name : List UInt8) : readName (nameField name) = nameText name :=
  congrArg Text.Utf8.decode (beforeZero_append_zeros _ _)

def withoutAspect (flags : UInt32) : UInt32 :=
  flags &&& 0xFF87FFFF

/-- The picture aspect ratio is in the bits from 19 to 22. -/
theorem testBit_withoutAspect (flags : UInt32) (bit : Nat) :
    (withoutAspect flags).toNat.testBit bit =
      (flags.toNat.testBit bit && !decide (19 ≤ bit ∧ bit ≤ 22)) := by
  have hmask : ∀ place : Fin 32,
      (0xFF87FFFF : UInt32).toNat.testBit place = !decide (19 ≤ place.val ∧ place.val ≤ 22) := by
    decide
  rw [withoutAspect, UInt32.toNat_and, Nat.testBit_and]
  by_cases hbit : bit < 32
  · exact congrArg (_ && ·) (hmask ⟨bit, hbit⟩)
  · have hhigh : flags.toNat.testBit bit = false := by
      refine Nat.testBit_lt_two_pow (Nat.lt_of_lt_of_le flags.toNat_lt ?_)
      exact Nat.pow_le_pow_right (by decide) (Nat.le_of_not_lt hbit)
    rw [hhigh, Bool.false_and, Bool.false_and]

theorem reportedFlags_eq (aspect : Bool) (flags : UInt32) :
    reportedFlags aspect flags = if aspect then flags else withoutAspect flags := rfl

/-- The values of as many properties as are listed; those that are not given are zero. -/
def valuesOf (count : Nat) (values : List UInt64) : List UInt64 :=
  (List.range count).map fun place => values[place]?.getD 0

theorem fitValues_eq (count : Nat) (values : List UInt64) :
    fitValues count values = valuesOf count values := by
  have hlength : (fitValues count values).length = (valuesOf count values).length := by
    simp only [fitValues, valuesOf, List.length_append, List.length_take, List.length_replicate,
      List.length_map, List.length_range]
    omega
  refine List.ext_getElem hlength fun place _ hplace => ?_
  have hcount : place < count := by simpa [valuesOf] using hplace
  simp only [fitValues, valuesOf, List.getElem_map, List.getElem_range]
  by_cases hgiven : place < values.length
  · rw [List.getElem_append_left (by simp only [List.length_take]; omega),
      List.getElem?_eq_getElem hgiven, List.getElem_take]
    rfl
  · rw [List.getElem_append_right (by simp only [List.length_take]; omega),
      List.getElem?_eq_none (Nat.le_of_not_lt hgiven), List.getElem_replicate]
    rfl

def RawMode.snapshot (aspect : Bool) (mode : RawMode) : Mode :=
  { mode.toTiming with
    flags := if aspect then mode.flags else withoutAspect mode.flags
    name := nameText mode.name }

def RawConnector.snapshot (aspect : Bool) (connector : RawConnector) : Connector :=
  { connector.toPlug with
    modes := connector.modes.map (RawMode.snapshot aspect)
    props := connector.props
    propValues := valuesOf connector.props.length connector.propValues
    encoders := connector.encoders }

def RawCrtc.activeMode (aspect : Bool) (crtc : RawCrtc) : Option Mode :=
  if crtc.modeValid = 0 then none else some (crtc.mode.snapshot aspect)

def RawCrtc.snapshot (aspect : Bool) (crtc : RawCrtc) : Crtc where
  x := crtc.x
  y := crtc.y
  width := ((crtc.activeMode aspect).map fun mode => mode.hdisplay.toUInt32).getD 0
  height := ((crtc.activeMode aspect).map fun mode => mode.vdisplay.toUInt32).getD 0
  mode := crtc.activeMode aspect
  gammaSize := crtc.gammaSize

def RawProperty.snapshot (id : UInt32) (property : RawProperty) : Property where
  id := id
  name := nameText property.name
  flags := property.flags
  values := property.values
  enums := property.enums.map fun entry => ⟨entry.value, nameText entry.name⟩

theorem RawMode.report_eq_snapshot (aspect : Bool) (mode : RawMode) :
    mode.report aspect = mode.snapshot aspect := by
  simp only [report, snapshot, reportedFlags_eq, readName_nameField]

theorem RawConnector.report_eq_snapshot (aspect : Bool) (connector : RawConnector) :
    connector.report aspect = connector.snapshot aspect := by
  simp only [report, snapshot, fitValues_eq]
  exact congrArg (fun convert => Connector.mk connector.toPlug (connector.modes.map convert) _ _ _)
    (funext (RawMode.report_eq_snapshot aspect))

theorem RawCrtc.report_eq_snapshot (aspect : Bool) (crtc : RawCrtc) :
    crtc.report aspect = crtc.snapshot aspect := by
  by_cases hvalid : crtc.modeValid = 0
  · simp [report, snapshot, activeMode, hvalid]
  · simp only [report, snapshot, activeMode, hvalid, if_false, RawMode.report_eq_snapshot]
    rfl

theorem RawProperty.report_eq_snapshot (id : UInt32) (property : RawProperty) :
    property.report id = property.snapshot id := by
  have hentry : RawNamedValue.report = fun entry => ⟨entry.value, nameText entry.name⟩ :=
    funext fun entry => congrArg (NamedValue.mk entry.value) (readName_nameField entry.name)
  simp only [report, snapshot, hentry, readName_nameField]

end DisplayInventory.Kernel
