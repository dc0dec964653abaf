import DisplayInventory.Proofs.Script.Delivery
import DisplayInventory.Proofs.Text.Readback
import DisplayInventory.Report.PropertyBlock
import Mathlib.Data.List.Nodup
import Mathlib.Data.Nat.Bitwise

/-!
# The value of a property

A property is described, and then its current value is shown.  The flag for blobs decides alone
which way: the value is the id of the one blob that is asked for, and the length and the first word
of the blob are shown; or nothing is asked, all named values are listed, and the value is shown by
the last name that it has among them.
-/

namespace DisplayInventory

/-! ## The first word of a blob -/

/-- Whether the bytes of a word, the lowest first, begin a blob, if zeros are put after it. -/
def IsFirstWord (bytes : List UInt8) (word : UInt32) : Prop :=
  ∀ place < 4, word.toNat / 256 ^ place % 256 = (bytes[place]?.getD 0).toNat

/-- Of a number given by its bytes, the lowest first, each byte is found at its place. -/
theorem byte_of_littleEndian (bytes : List UInt8) (place : Nat) :
    bytes.foldr (fun byte rest => byte.toNat + 256 * rest) 0 / 256 ^ place % 256 =
      (bytes[place]?.getD 0).toNat := by
  induction bytes generalizing place with
  | nil => simp
  | cons byte rest ih =>
      have hbound : byte.toNat < 256 := byte.toNat_lt
      rw [List.foldr_cons]
      cases place with
      | zero =>
          rw [Nat.pow_zero, Nat.div_one, List.getElem?_cons_zero, Option.getD_some]
          omega
      | succ place =>
          have hlater := ih place
          rw [Nat.pow_succ', ← Nat.div_div_eq_div_mul, List.getElem?_cons_succ, ← hlater,
            Nat.add_mul_div_left byte.toNat _ (by decide), Nat.div_eq_of_lt hbound, Nat.zero_add]

theorem littleEndian_lt (bytes : List UInt8) :
    bytes.foldr (fun byte rest => byte.toNat + 256 * rest) 0 < 256 ^ bytes.length := by
  induction bytes with
  | nil => decide
  | cons byte rest ih =>
      have hbound : byte.toNat < 256 := byte.toNat_lt
      rw [List.foldr_cons, List.length_cons, Nat.pow_succ]
      omega

theorem firstWord_lt (bytes : List UInt8) : firstWord bytes < 2 ^ 32 := by
  have hlength : (bytes.take 4).length ≤ 4 := List.length_take_le 4 bytes
  calc
    firstWord bytes < 256 ^ (bytes.take 4).length := littleEndian_lt (bytes.take 4)
    _ ≤ 256 ^ 4 := Nat.pow_le_pow_right (by decide) hlength
    _ = 2 ^ 32 := by decide

theorem isFirstWord_firstWord (bytes : List UInt8) :
    IsFirstWord bytes (UInt32.ofNat (firstWord bytes)) := by
  intro place hplace
  rw [UInt32.toNat_ofNat_of_lt' (firstWord_lt bytes), firstWord, byte_of_littleEndian,
    List.getElem?_take_of_lt hplace]

/-- Whether a line tells the length of a blob and, in eight digits, its first word. -/
def TellsBlob (bytes : List UInt8) (line : String) : Prop :=
  ∃ (word : UInt32) (digits : List Char),
    line = "blob is " ++ Text.decimal bytes.length ++ " length, " ++ String.ofList digits ∧
      IsFirstWord bytes word ∧
      digits.length = 8 ∧ (∀ digit ∈ digits, digit ∈ Text.Hex.upperAlphabet) ∧
      Text.Hex.number? digits = some word.toNat

namespace Property

theorem tellsBlob_blobLine (bytes : List UInt8) : TellsBlob bytes (blobLine bytes) := by
  have hnumber := Text.Hex.number?_toUpper_digits 8 (firstWord bytes)
  have hword : (UInt32.ofNat (firstWord bytes)).toNat = firstWord bytes :=
    UInt32.toNat_ofNat_of_lt' (firstWord_lt bytes)
  have hfits : firstWord bytes < 16 ^ 8 := firstWord_lt bytes
  rw [Nat.mod_eq_of_lt hfits] at hnumber
  exact ⟨UInt32.ofNat (firstWord bytes),
    (Text.Hex.digits 8 (firstWord bytes)).map Char.toUpper, rfl,
    isFirstWord_firstWord bytes, by rw [List.length_map, Text.Hex.digits_length],
    fun _ => Text.Hex.mem_upperAlphabet_of_mem_digits, hword.symm ▸ hnumber⟩

example : blobLine [0xEF, 0x0A] = "blob is 2 length, 00000AEF" := by decide

def TellsAnswer (id : UInt64) (line : String) : Except IoError (List UInt8) -> Prop
  | .ok bytes => TellsBlob bytes line
  | .error _ => line = "error getting blob " ++ Text.decimal id.toNat

/-! ## The name of a value -/

/-- Whether a text is the name of the last entry with a value, or its number if no entry has it. -/
def TellsValue (enums : List NamedValue) (value : UInt64) (text : String) : Prop :=
  (∃ before entry after, enums = before ++ entry :: after ∧ entry.value = value ∧
      (∀ other ∈ after, other.value ≠ value) ∧ text = entry.name) ∨
    (∀ entry ∈ enums, entry.value ≠ value) ∧ text = Text.decimal value.toNat

theorem lastName?_eq_none {value : UInt64} {enums : List NamedValue}
    (hnone : lastName? value enums = none) : ∀ entry ∈ enums, entry.value ≠ value := by
  induction enums with
  | nil => exact fun _ hmem => absurd hmem List.not_mem_nil
  | cons first rest ih =>
      cases hrest : lastName? value rest with
      | some name => simp [lastName?, hrest] at hnone
      | none =>
          have hfirst : first.value ≠ value := by simpa [lastName?, hrest] using hnone
          intro entry hentry
          rcases List.mem_cons.mp hentry with rfl | hlater
          · exact hfirst
          · exact ih hrest entry hlater

theorem lastName?_eq_some {value : UInt64} {enums : List NamedValue} {name : String}
    (hname : lastName? value enums = some name) :
    ∃ before entry after, enums = before ++ entry :: after ∧ entry.value = value ∧
      (∀ other ∈ after, other.value ≠ value) ∧ name = entry.name := by
  induction enums with
  | nil => exact absurd hname nofun
  | cons first rest ih =>
      cases hrest : lastName? value rest with
      | some later =>
          have hsame : later = name := by simpa [lastName?, hrest] using hname
          obtain ⟨before, entry, after, hsplit, htold⟩ := ih (hsame ▸ hrest)
          exact ⟨first :: before, entry, after, by rw [hsplit, List.cons_append], htold⟩
      | none =>
          have hfirst : first.value = value ∧ first.name = name := by
            simpa [lastName?, hrest] using hname
          exact ⟨[], first, rest, rfl, hfirst.1, lastName?_eq_none hrest, hfirst.2.symm⟩

theorem tellsValue_valueText (property : Property) (value : UInt64) :
    TellsValue property.enums value (property.valueText value) := by
  unfold valueText
  cases hname : lastName? value property.enums with
  | some name => exact .inl (lastName?_eq_some hname)
  | none => exact .inr ⟨lastName?_eq_none hname, rfl⟩

/-- Where values are different, one that has a name is told by it, and otherwise by its number. -/
theorem TellsValue.eq_of_perm {enums enums' : List NamedValue} {value : UInt64}
    {text text' : String} (htold : TellsValue enums value text)
    (htold' : TellsValue enums' value text') (hperm : enums.Perm enums')
    (hnodup : (enums.map NamedValue.value).Nodup) : text = text' := by
  rcases htold with ⟨before, entry, after, hsplit, hvalue, -, hname⟩ | ⟨hnone, htext⟩
  · have hmem : entry ∈ enums := by simp [hsplit]
    rcases htold' with ⟨before', entry', after', hsplit', hvalue', -, hname'⟩ | ⟨hnone', -⟩
    · have hmem' : entry' ∈ enums := hperm.mem_iff.mpr (by simp [hsplit'])
      have hsame : entry = entry' :=
        List.inj_on_of_nodup_map hnodup hmem hmem' (hvalue.trans hvalue'.symm)
      rw [hname, hname', hsame]
    · exact absurd hvalue (hnone' entry (hperm.mem_iff.mp hmem))
  · rcases htold' with ⟨before', entry', after', hsplit', hvalue', -, -⟩ | ⟨-, htext'⟩
    · exact absurd hvalue' (hnone entry' (hperm.mem_iff.mpr (by simp [hsplit'])))
    · rw [htext, htext']

/-! ## The description -/

def heading (property : Property) : List String :=
  ["Property: " ++ property.name,
   "\tid           : " ++ Text.decimal property.id.toNat,
   "\tflags        : " ++ Text.decimal property.flags.toNat,
   "\tcount_values : " ++ Text.decimal property.values.length] ++
  (if property.values = [] then []
   else ["\tvalues       :" ++
     String.join (property.values.map fun value => " " ++ Text.decimal value.toNat)]) ++
  ["\tcount_enums  : " ++ Text.decimal property.enums.length]

/-- Numbers with a space between each two of them are numbers with a space before each. -/
theorem space_append_spaced (first : Nat) (rest : List Nat) :
    " " ++ Text.spaced (first :: rest) =
      String.join ((first :: rest).map fun n => " " ++ Text.decimal n) := by
  induction rest generalizing first with
  | nil => simp [Text.spaced]
  | cons second rest ih =>
      rw [List.map_cons, String.join_cons, ← ih second]
      simp [Text.spaced, String.intercalate_cons_cons, String.append_assoc]

theorem descriptionLines_eq_heading (property : Property) :
    property.descriptionLines = property.heading := by
  have hvalues : Text.listField 13 "values" (property.values.map UInt64.toNat) =
      if property.values = [] then []
      else ["\tvalues       :" ++
        String.join (property.values.map fun value => " " ++ Text.decimal value.toNat)] := by
    cases hlist : property.values with
    | nil => rfl
    | cons first rest =>
        have hfield : ∀ told, Text.field 13 "values" told = "\tvalues       :" ++ " " ++ told :=
          Text.field_of_head (by decide)
        have hspaced := space_append_spaced first.toNat (rest.map UInt64.toNat)
        rw [← List.map_cons, List.map_map] at hspaced
        rw [if_neg (List.cons_ne_nil first rest), Text.listField, hfield, String.append_assoc,
          hspaced]
        rfl
  have hid : ∀ told, Text.field 13 "id" told = "\tid           : " ++ told :=
    Text.field_of_head (by decide)
  have hflags : ∀ told, Text.field 13 "flags" told = "\tflags        : " ++ told :=
    Text.field_of_head (by decide)
  have hvalueCount : ∀ told, Text.field 13 "count_values" told = "\tcount_values : " ++ told :=
    Text.field_of_head (by decide)
  have henumCount : ∀ told, Text.field 13 "count_enums" told = "\tcount_enums  : " ++ told :=
    Text.field_of_head (by decide)
  rw [descriptionLines, heading, hid, hflags, hvalueCount, hvalues, henumCount]

/-- The flag for blobs is one bit of the flags. -/
theorem isBlob_eq_testBit (property : Property) :
    property.isBlob = property.flags.toNat.testBit 4 := by
  have hmask : (property.flags &&& blobFlag).toNat =
      (property.flags.toNat.testBit 4).toNat * 2 ^ 4 := by
    rw [UInt32.toNat_and]
    exact Nat.and_two_pow property.flags.toNat 4
  rw [isBlob, isBlobFlags]
  cases hbit : property.flags.toNat.testBit 4 with
  | false =>
      rw [hbit] at hmask
      have hzero : property.flags &&& blobFlag = 0 := UInt32.toNat_inj.mp hmask
      rw [hzero]
      rfl
  | true =>
      rw [hbit] at hmask
      have hflag : property.flags &&& blobFlag = blobFlag := UInt32.toNat_inj.mp hmask
      rw [hflag]
      rfl

theorem valueLines_eq (property : Property) (value : UInt64) :
    property.valueLines value =
      (property.enums.map fun entry =>
          "\t\t" ++ Text.decimal entry.value.toNat ++ " = " ++ entry.name) ++
        ["\tcon_value    : " ++ property.valueText value] := by
  have hfield : ∀ told, Text.field 13 "con_value" told = "\tcon_value    : " ++ told :=
    Text.field_of_head (by decide)
  rw [valueLines, hfield]
  rfl

/-! ## The report -/

section Report

variable {State : Type} (source : Source State) {property : Property} (value : UInt64)
  (state : State) (sink : Sink)

theorem run_of_blob (hblob : property.isBlob = true) :
    let run := (property.script value).run source state sink.unhindered
    let answer := (source.answer state (.blob value)).1
    run.outcome = .ok () ∧ run.exchanges = [⟨.blob value, answer⟩] ∧
      ∃ line, TellsAnswer value line answer ∧
        run.sink.bytes =
          sink.bytes ++ Text.Utf8.encode (Text.unlines (property.heading ++ [line])) := by
  intro run answer
  obtain ⟨houtcome, hexchanges, -, hbytes⟩ :=
    Script.run_unhindered source (property.script value) state sink
  rw [houtcome, hexchanges, hbytes]
  have hdescription := descriptionLines_eq_heading property
  cases hanswer : (source.answer state (.blob value)).1 with
  | ok bytes =>
      have hline := tellsBlob_blobLine bytes
      refine ⟨?_, ?_, blobLine bytes, by rwa [show answer = _ from hanswer], ?_⟩ <;>
        simp [script, Script.text, Script.line, Script.query, Script.bind, Script.course, hblob,
          answer, hanswer, Text.unlines_append, Text.unlines_cons, hdescription]
  | error cause =>
      refine ⟨?_, ?_, "error getting blob " ++ Text.decimal value.toNat,
        by rw [show answer = _ from hanswer, TellsAnswer], ?_⟩ <;>
        simp [script, Script.text, Script.line, Script.query, Script.note, Script.bind,
          Script.course, hblob, answer, hanswer, Text.unlines_append, Text.unlines_cons,
          hdescription]

theorem run_of_not_blob (hblob : property.isBlob = false) :
    let run := (property.script value).run source state sink.unhindered
    run.outcome = .ok () ∧ run.exchanges = [] ∧
      run.sink.bytes = sink.bytes ++ Text.Utf8.encode (Text.unlines (property.heading ++
        ((property.enums.map fun entry =>
            "\t\t" ++ Text.decimal entry.value.toNat ++ " = " ++ entry.name) ++
          ["\tcon_value    : " ++ property.valueText value]))) := by
  intro run
  obtain ⟨houtcome, hexchanges, -, hbytes⟩ :=
    Script.run_unhindered source (property.script value) state sink
  rw [houtcome, hexchanges, hbytes, ← valueLines_eq, ← descriptionLines_eq_heading]
  simp [script, Script.text, Script.bind, Script.course, hblob, Text.unlines_append]

end Report

/--
A property is told by its description, and then by its value.  The flag for blobs alone decides how:
either the one question is for the blob with the value as its id, and the answer is the one line
that follows; or nothing is asked, and the named values in order are followed by the name of the
value, which their order does not change if their values differ.
-/
theorem told_script {State : Type} (source : Source State) (property : Property) (value : UInt64)
    (state : State) (sink : Sink) :
    let run := (property.script value).run source state sink.unhindered
    let answer := (source.answer state (.blob value)).1
    let entryLines := fun enums : List NamedValue => enums.map fun entry =>
      "\t\t" ++ Text.decimal entry.value.toNat ++ " = " ++ entry.name
    run.outcome = .ok () ∧
      (property.flags.toNat.testBit 4 = true ->
        run.exchanges = [⟨.blob value, answer⟩] ∧
          ∃ line, TellsAnswer value line answer ∧
            run.sink.bytes =
              sink.bytes ++ Text.Utf8.encode (Text.unlines (property.heading ++ [line]))) ∧
      (property.flags.toNat.testBit 4 = false ->
        run.exchanges = [] ∧
          ∃ text, TellsValue property.enums value text ∧
            run.sink.bytes = sink.bytes ++ Text.Utf8.encode (Text.unlines (property.heading ++
              (entryLines property.enums ++ ["\tcon_value    : " ++ text]))) ∧
            ((property.enums.map NamedValue.value).Nodup ->
              ∀ enums, property.enums.Perm enums ->
                ((({ property with enums } : Property).script value).run source state
                    sink.unhindered).sink.bytes =
                  sink.bytes ++ Text.Utf8.encode (Text.unlines (property.heading ++
                    (entryLines enums ++ ["\tcon_value    : " ++ text]))))) := by
  intro run answer entryLines
  have hflag := isBlob_eq_testBit property
  refine ⟨?_, ?_, ?_⟩
  · cases hblob : property.isBlob with
    | true => exact (run_of_blob source value state sink hblob).1
    | false => exact (run_of_not_blob source value state sink hblob).1
  · intro hbit
    exact (run_of_blob source value state sink (hflag.trans hbit)).2
  · intro hbit
    have hblob : property.isBlob = false := hflag.trans hbit
    obtain ⟨-, hasked, hbytes⟩ := run_of_not_blob source value state sink hblob
    refine ⟨hasked, property.valueText value, tellsValue_valueText property value, hbytes, ?_⟩
    intro hnodup enums hperm
    have hheading : heading { property with enums } = property.heading := by
      simp only [heading, hperm.length_eq]
    have htext : valueText { property with enums } value = property.valueText value :=
      ((tellsValue_valueText property value).eq_of_perm
        (tellsValue_valueText { property with enums } value) hperm hnodup).symm
    have hreordered : isBlob { property with enums } = false := hblob
    have hbytes' := (run_of_not_blob source value state sink hreordered).2.2
    rwa [hheading, htext] at hbytes'

end Property

end DisplayInventory
