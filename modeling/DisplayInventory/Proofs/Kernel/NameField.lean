import DisplayInventory.Proofs.Kernel.Conversion
import DisplayInventory.Proofs.Text.CutText

/-!
# Names through their fields

A name is read up to the first zero of its field, and never has the character zero.  A text without
that character comes back from its field, if its bytes find room there; of a longer one come back
the characters that are whole, and one replacement character if the field ends inside another one.
-/

namespace DisplayInventory.Kernel

open Text.Utf8 (decode encode)

/-! ## Up to the first zero -/

theorem zero_not_mem_beforeZero (field : List UInt8) : 0 ∉ beforeZero field := by
  intro hzero
  have hall := List.all_eq_true.mp List.all_takeWhile 0 hzero
  exact absurd hall (by decide)

theorem beforeZero_append {before : List UInt8} (hbefore : 0 ∉ before) (rest : List UInt8) :
    beforeZero (before ++ rest) = before ++ beforeZero rest := by
  apply List.takeWhile_append_of_pos
  intro byte hbyte
  have hne : byte ≠ 0 := fun hzero => hbefore (hzero ▸ hbyte)
  simpa using hne

theorem readName_append_zero {before : List UInt8} (hbefore : 0 ∉ before) (rest : List UInt8) :
    readName (before ++ 0 :: rest) = decode before := by
  have hzero : beforeZero (0 :: rest) = [] := rfl
  rw [readName, beforeZero_append hbefore, hzero, List.append_nil]

theorem readName_of_not_mem {field : List UInt8} (hfield : 0 ∉ field) :
    readName field = decode field := by
  have happend := beforeZero_append hfield []
  rw [List.append_nil] at happend
  rw [readName, happend]
  exact congrArg decode (List.append_nil field)

theorem zero_not_mem_readName (field : List UInt8) : '\x00' ∉ (readName field).toList :=
  Text.Utf8.zero_not_mem_decode (zero_not_mem_beforeZero field)

/-! ## Cut names -/

theorem encode_eq_flatMap (name : String) :
    encode name = name.toList.flatMap String.utf8EncodeChar := by
  rw [← Text.Utf8.encode_ofList, String.ofList_toList]

theorem length_encode (name : String) : (encode name).length = Text.Utf8.size name.toList :=
  congrArg List.length (encode_eq_flatMap name)

theorem zero_not_mem_encode {name : String} (hname : '\x00' ∉ name.toList) : 0 ∉ encode name := by
  rw [encode_eq_flatMap]
  intro hzero
  obtain ⟨c, hc, hbyte⟩ := List.mem_flatMap.mp hzero
  exact Text.Utf8.zero_not_mem_utf8EncodeChar (fun heq => hname (heq ▸ hc)) hbyte

theorem toList_readName_nameField {name : String} (hname : '\x00' ∉ name.toList) :
    (readName (nameField (encode name))).toList =
      Text.Utf8.fitting 32 name.toList ++
        if Text.Utf8.size (Text.Utf8.fitting 32 name.toList) =
            min 32 (Text.Utf8.size name.toList) then []
        else [Text.Utf8.replacement] := by
  have hzero : 0 ∉ (encode name).take 32 :=
    fun hmem => zero_not_mem_encode hname (List.mem_of_mem_take hmem)
  have hread : readName (nameField (encode name)) = decode ((encode name).take 32) :=
    (readName_nameField (encode name)).trans (readName_of_not_mem hzero)
  rw [hread, decode, String.toList_ofList, encode_eq_flatMap, Text.Utf8.decodeFrom_take]

theorem readName_nameField_of_fits {name : String} (hname : '\x00' ∉ name.toList)
    (hfits : (encode name).length ≤ 32) : readName (nameField (encode name)) = name := by
  have hread := toList_readName_nameField hname
  rw [length_encode] at hfits
  have hall : Text.Utf8.fitting 32 name.toList = name.toList :=
    (Text.Utf8.fitting_prefix 32 name.toList).eq_of_length_le
      (Text.Utf8.prefix_fitting List.prefix_rfl hfits).length_le
  rw [hall, Nat.min_eq_right hfits, if_pos rfl, List.append_nil] at hread
  exact String.toList_inj.mp hread

/-- The most characters of a name that are whole in its field. -/
def keptName (name : String) : String :=
  String.ofList (Text.Utf8.fitting 32 name.toList)

theorem length_encode_keptName (name : String) :
    (encode (keptName name)).length = Text.Utf8.size (Text.Utf8.fitting 32 name.toList) := by
  rw [length_encode, keptName, String.toList_ofList]

theorem length_encode_keptName_le (name : String) : (encode (keptName name)).length ≤ 32 := by
  rw [length_encode_keptName]
  exact Text.Utf8.size_fitting_le 32 name.toList

theorem readName_nameField_of_cut {name : String} (hname : '\x00' ∉ name.toList)
    (hlong : 32 < (encode name).length) :
    readName (nameField (encode name)) =
      if (encode (keptName name)).length = 32 then keptName name
      else keptName name ++ "\uFFFD" := by
  have hread := toList_readName_nameField hname
  rw [length_encode] at hlong
  rw [Nat.min_eq_left (Nat.le_of_lt hlong), ← length_encode_keptName] at hread
  apply String.toList_inj.mp
  by_cases hwhole : (encode (keptName name)).length = 32
  · rw [hread, if_pos hwhole, if_pos hwhole, List.append_nil, keptName, String.toList_ofList]
  · rw [hread, if_neg hwhole, if_neg hwhole, String.toList_append, keptName,
      String.toList_ofList]
    rfl

theorem exists_eq_keptName_append (name : String) : ∃ rest, name = keptName name ++ rest := by
  obtain ⟨rest, hrest⟩ := Text.Utf8.fitting_prefix 32 name.toList
  refine ⟨String.ofList rest, ?_⟩
  rw [keptName, ← String.ofList_append, hrest, String.ofList_toList]

theorem keptName_longest {name first second : String} (hname : name = first ++ second)
    (hfirst : (encode first).length ≤ 32) : ∃ more, keptName name = first ++ more := by
  have hprefix : first.toList <+: name.toList := by
    rw [hname, String.toList_append]
    exact List.prefix_append _ _
  rw [length_encode] at hfirst
  obtain ⟨more, hmore⟩ := Text.Utf8.prefix_fitting hprefix hfirst
  exact ⟨String.ofList more, by rw [keptName, ← hmore, String.ofList_append, String.ofList_toList]⟩

/-- Whether a cut behind a number of bytes goes through no character. -/
def CutsBetween (count : Nat) (name : String) : Prop :=
  ∃ first second, name = first ++ second ∧ (encode first).length = count

theorem cutsBetween_iff {name : String} :
    CutsBetween 32 name ↔ (encode (keptName name)).length = 32 := by
  have hkept := length_encode_keptName_le name
  constructor
  · rintro ⟨first, second, hname, hlength⟩
    obtain ⟨more, hmore⟩ := keptName_longest hname (Nat.le_of_eq hlength)
    rw [hmore, Text.Utf8.encode_append, List.length_append] at hkept ⊢
    omega
  · intro hlength
    obtain ⟨rest, hrest⟩ := exists_eq_keptName_append name
    exact ⟨keptName name, rest, hrest, hlength⟩

/--
Names never have the character zero, and depend on nothing behind the first zero of their field.  A
text that fits into a field comes back from it; of another one come back the most characters that
are whole, and a replacement character exactly if the cut goes through a character.
-/
theorem names_read_back :
    (∀ field, '\x00' ∉ (readName field).toList) ∧
    (∀ before rest : List UInt8, 0 ∉ before ->
      readName (before ++ 0 :: rest) = decode before ∧ readName before = decode before) ∧
    ∀ name : String, '\x00' ∉ name.toList ->
      (nameField (encode name)).length = 32 ∧
      ((encode name).length ≤ 32 -> readName (nameField (encode name)) = name) ∧
      (32 < (encode name).length ->
        ∃ kept rest, name = kept ++ rest ∧ (encode kept).length ≤ 32 ∧
          (∀ first second, name = first ++ second -> (encode first).length ≤ 32 ->
            ∃ more, kept = first ++ more) ∧
          (CutsBetween 32 name -> readName (nameField (encode name)) = kept) ∧
          (¬CutsBetween 32 name -> readName (nameField (encode name)) = kept ++ "\uFFFD")) := by
  refine ⟨zero_not_mem_readName, fun before rest hbefore =>
    ⟨readName_append_zero hbefore rest, readName_of_not_mem hbefore⟩, ?_⟩
  intro name hname
  refine ⟨?_, readName_nameField_of_fits hname, ?_⟩
  · rw [nameField, nameFieldLength, List.length_append, List.length_take, List.length_replicate]
    omega
  · intro hlong
    have hread := readName_nameField_of_cut hname hlong
    have hkept := length_encode_keptName_le name
    obtain ⟨rest, hrest⟩ := exists_eq_keptName_append name
    refine ⟨keptName name, rest, hrest, hkept, fun _ _ => keptName_longest, ?_, ?_⟩
    · intro hcuts
      rw [hread, if_pos (cutsBetween_iff.mp hcuts)]
    · intro hcuts
      rw [hread, if_neg fun hlength => hcuts (cutsBetween_iff.mpr hlength)]

example :
    readName (nameField (encode "Écran 0123456789 0123456789 01é")) =
      "Écran 0123456789 0123456789 01\uFFFD" := by
  decide +kernel

end DisplayInventory.Kernel
