import DisplayInventory.Card.Samples
import DisplayInventory.Proofs.Report.Sections
import DisplayInventory.Proofs.Text.Readback

/-!
# The dump of identification data

The dump of a blob tells its length, its identity if it has one, and all of its bytes.  The bytes
are cut into rows, of which only the last may be short, and the digits of the rows in order are read
back as the bytes.  So the dump loses nothing, whatever the blob holds, and the identity that is
shown above the rows is not needed to tell two blobs apart.
-/

namespace DisplayInventory.Edid

/-! ## Rows -/

section Groups

variable {α : Type} (width : Nat)

theorem flatten_groups (items : List α) : (groups width items).flatten = items := by
  fun_induction groups width items with
  | case1 => rfl
  | case2 first rest ih => rw [List.flatten_cons, ih, List.cons_append, List.take_append_drop]

theorem length_groups (items : List α) :
    (groups width items).length = (items.length + width) / (width + 1) := by
  fun_induction groups width items with
  | case1 =>
      rw [List.length_nil, List.length_nil, Nat.zero_add,
        Nat.div_eq_of_lt (Nat.lt_succ_self width)]
  | case2 first rest ih =>
      rw [List.length_cons, ih, List.length_drop, List.length_cons]
      by_cases hmore : width < rest.length
      · have hsplit :
            rest.length + 1 + width = rest.length - width + width + (width + 1) := by omega
        rw [hsplit, Nat.add_div_right _ (Nat.succ_pos width)]
      · have hnone : rest.length - width + width = width := by omega
        rw [hnone, Nat.div_eq_of_lt (Nat.lt_succ_self width)]
        have hone : rest.length + 1 + width = rest.length + (width + 1) := by omega
        rw [hone, Nat.add_div_right _ (Nat.succ_pos width), Nat.div_eq_of_lt (by omega)]

theorem length_of_mem_groups {items group : List α} (hgroup : group ∈ groups width items) :
    0 < group.length ∧ group.length ≤ width + 1 := by
  fun_induction groups width items with
  | case1 => exact absurd hgroup List.not_mem_nil
  | case2 first rest ih =>
      rcases List.mem_cons.mp hgroup with rfl | hlater
      · rw [List.length_cons, List.length_take]
        omega
      · exact ih hlater

/-- Before another group stands a full one. -/
theorem length_of_mem_dropLast_groups {items group : List α}
    (hgroup : group ∈ (groups width items).dropLast) : group.length = width + 1 := by
  fun_induction groups width items with
  | case1 => exact absurd hgroup List.not_mem_nil
  | case2 first rest ih =>
      have hlast : rest.length ≤ width -> groups width (rest.drop width) = [] := by
        intro hshort
        rw [List.drop_eq_nil_of_le hshort, groups]
      cases hlater : groups width (rest.drop width) with
      | nil => simp [hlater] at hgroup
      | cons next others =>
          have hmore : ¬rest.length ≤ width := by
            intro hshort
            rw [hlast hshort] at hlater
            exact absurd hlater nofun
          rw [hlater] at hgroup ih
          rcases List.mem_cons.mp hgroup with rfl | hmem
          · rw [List.length_cons, List.length_take]
            omega
          · exact ih hmem

end Groups

def rows (bytes : List UInt8) : List (List Char) :=
  (groups (rowLength - 1) bytes).map Text.Hex.ofBytes

def rowLine (row : List Char) : String :=
  "\t\t" ++ String.ofList row

theorem rowLines_eq (bytes : List UInt8) : rowLines bytes = (rows bytes).map rowLine := by
  rw [rowLines, rows, List.map_map]
  rfl

theorem rowLine_inj {row row' : List Char} (heq : rowLine row = rowLine row') : row = row' :=
  String.ofList_injective ((String.append_right_inj _).mp heq)

theorem flatten_ofBytes (groups : List (List UInt8)) :
    (groups.map Text.Hex.ofBytes).flatten = Text.Hex.ofBytes groups.flatten := by
  induction groups with
  | nil => rfl
  | cons group rest ih =>
      rw [List.map_cons, List.flatten_cons, List.flatten_cons, ih, Text.Hex.ofBytes_append]

theorem flatten_rows (bytes : List UInt8) : (rows bytes).flatten = Text.Hex.ofBytes bytes := by
  rw [rows, flatten_ofBytes, flatten_groups]

/-! ## The identity -/

/-- Whether bytes begin with a base block. -/
def HasBlock (bytes : List UInt8) : Prop :=
  128 ≤ bytes.length ∧
    bytes.take 8 = [0x00, 0xFF, 0xFF, 0xFF, 0xFF, 0xFF, 0xFF, 0x00]

theorem isPrefixOf_signature (bytes : List UInt8) :
    signature.isPrefixOf bytes = true ↔ bytes.take 8 = signature := by
  rw [List.isPrefixOf_iff_prefix, List.prefix_iff_eq_take]
  exact eq_comm

theorem read_of_hasBlock {bytes : List UInt8} (hblock : HasBlock bytes) :
    read bytes = .identified (identity bytes) := by
  have hlength : ¬bytes.length < blockLength := Nat.not_lt.mpr hblock.1
  rw [read, if_neg hlength, if_pos ((isPrefixOf_signature bytes).mpr hblock.2)]

theorem lines_read_of_not_hasBlock {bytes : List UInt8} (hblock : ¬HasBlock bytes) :
    (read bytes).lines = [] := by
  unfold read
  split
  · rfl
  · next hlength =>
      have hsignature : ¬signature.isPrefixOf bytes = true := fun hprefix =>
        hblock ⟨Nat.not_lt.mp hlength, (isPrefixOf_signature bytes).mp hprefix⟩
      rw [if_neg hsignature]
      rfl

abbrev Whole :=
  { bytes : List UInt8 // blockLength ≤ bytes.length }

/--
How bytes are read with the help of a parser of base blocks.  The parser is given nothing that is
too short for it.
-/
def readBy (parse : Whole -> Option Identity) (bytes : List UInt8) : Reading :=
  if hwhole : blockLength ≤ bytes.length then
    match parse ⟨bytes, hwhole⟩ with
    | some found => .identified found
    | none => .unreadable
  else .short

/-- A parser that accepts what begins like a base block, and reads the identity in it. -/
def Parses (parse : Whole -> Option Identity) : Prop :=
  ∀ whole, parse whole =
    if signature.isPrefixOf whole.val then some (identity whole.val) else none

theorem read_eq_readBy {parse : Whole -> Option Identity} (hparse : Parses parse)
    (bytes : List UInt8) : read bytes = readBy parse bytes := by
  unfold read readBy
  by_cases hwhole : blockLength ≤ bytes.length
  · rw [if_neg (Nat.not_lt.mpr hwhole), dif_pos hwhole, hparse]
    cases signature.isPrefixOf bytes <;> rfl
  · rw [if_pos (Nat.lt_of_not_le hwhole), dif_neg hwhole]

theorem digit_congr {m n : Nat} (heq : m % 16 = n % 16) : Text.Hex.digit m = Text.Hex.digit n :=
  congrArg Nat.digitChar heq

/-- Of a little-endian word the digits tell the second byte first. -/
theorem lowerPadded_word (low high : UInt8) :
    Text.Hex.lowerPadded 4 (low.toNat + 256 * high.toNat) =
      String.ofList (Text.Hex.ofBytes [high, low]) := by
  have hlow : low.toNat < 256 := low.toNat_lt
  have hfirst : Text.Hex.digit ((low.toNat + 256 * high.toNat) / 16 / 16 / 16) =
      Text.Hex.digit (high.toNat / 16) := digit_congr (by omega)
  have hsecond : Text.Hex.digit ((low.toNat + 256 * high.toNat) / 16 / 16) =
      Text.Hex.digit high.toNat := digit_congr (by omega)
  have hthird : Text.Hex.digit ((low.toNat + 256 * high.toNat) / 16) =
      Text.Hex.digit (low.toNat / 16) := digit_congr (by omega)
  have hlast : Text.Hex.digit (low.toNat + 256 * high.toNat) = Text.Hex.digit low.toNat :=
    digit_congr (by omega)
  refine congrArg String.ofList ?_
  simp only [Text.Hex.digits, Text.Hex.ofBytes, hfirst, hsecond, hthird, hlast]
  rfl

/-- The identity is told by three letters of five bits and the four digits of a word. -/
theorem lines_identity (bytes : List UInt8) :
    ∃ first second third, first < 32 ∧ second < 32 ∧ third < 32 ∧
      (256 * byteAt bytes 8 + byteAt bytes 9) % 32768 =
        first * 1024 + second * 32 + third ∧
      (identity bytes).lines =
        ["\tmanufacturer   : " ++ String.ofList
          [Char.ofNat (0x40 + first), Char.ofNat (0x40 + second), Char.ofNat (0x40 + third)],
         "\tproduct        : 0x" ++ String.ofList
          (Text.Hex.ofBytes [bytes[11]?.getD 0, bytes[10]?.getD 0])] := by
  have hword : manufacturerWord bytes = 256 * byteAt bytes 8 + byteAt bytes 9 := by
    rw [manufacturerWord, Nat.mul_comm]
  have hbound : ∀ n, n % 32 < 32 := fun n => Nat.mod_lt n (by decide)
  refine ⟨manufacturerWord bytes / 1024 % 32, manufacturerWord bytes / 32 % 32,
    manufacturerWord bytes % 32, hbound _, hbound _, hbound _, ?_, ?_⟩
  · rw [← hword]
    omega
  · have hproduct : Text.Hex.lowerPadded 4 (identity bytes).product = _ :=
      lowerPadded_word (bytes[10]?.getD 0) (bytes[11]?.getD 0)
    have hmaker : ∀ value, Text.field 15 "manufacturer" value = "\tmanufacturer   : " ++ value :=
      Text.field_of_head (by decide)
    have hfield : ∀ value, Text.field 15 "product" value = "\tproduct        : " ++ value :=
      Text.field_of_head (by decide)
    rw [Identity.lines, hmaker, hfield, hproduct, ← String.append_assoc]
    rfl

/-! ## The whole dump -/

def dumpLines (bytes : List UInt8) : List String :=
  lengthLine bytes :: ((read bytes).lines ++ rowLines bytes)

def dumpText (bytes : List UInt8) : String :=
  Text.unlines (dumpLines bytes)

theorem unbroken_letters (first second third : Nat) :
    Text.Unbroken (String.ofList [letter first, letter second, letter third]) := by
  have hletter : ∀ n, letter n ≠ '\n' := by
    have hall : ∀ n < 32, Char.ofNat (0x40 + n) ≠ '\n' := by decide
    exact fun n => hall (n % 32) (Nat.mod_lt n (by decide))
  intro hbreak
  rw [String.toList_ofList] at hbreak
  simp only [List.mem_cons, List.not_mem_nil, or_false] at hbreak
  rcases hbreak with hfirst | hsecond | hthird
  · exact hletter first hfirst.symm
  · exact hletter second hsecond.symm
  · exact hletter third hthird.symm

theorem unbroken_of_digits {digits : List Char} (hdigits : ∀ c ∈ digits, c ∈ Text.Hex.alphabet) :
    Text.Unbroken (String.ofList digits) := by
  intro hbreak
  rw [String.toList_ofList] at hbreak
  exact Text.Hex.not_break_mem_alphabet (hdigits '\n' hbreak)

theorem mem_alphabet_of_mem_rows {bytes : List UInt8} {row : List Char} (hrow : row ∈ rows bytes)
    {c : Char} (hc : c ∈ row) : c ∈ Text.Hex.alphabet := by
  obtain ⟨group, -, rfl⟩ := List.mem_map.mp hrow
  exact Text.Hex.mem_alphabet_of_mem_ofBytes hc

theorem unbroken_of_mem_dumpLines {bytes : List UInt8} :
    ∀ line ∈ dumpLines bytes, Text.Unbroken line := by
  intro line hline
  rcases List.mem_cons.mp hline with rfl | hlater
  · refine Text.unbroken_field (by decide) (Text.unbroken_append.mpr ⟨?_, by decide⟩)
    exact Text.unbroken_decimal _
  rcases List.mem_append.mp hlater with hname | hrow
  · by_cases hblock : HasBlock bytes
    · rw [read_of_hasBlock hblock] at hname
      simp only [Reading.lines, Identity.lines, List.mem_cons, List.not_mem_nil, or_false] at hname
      rcases hname with rfl | rfl
      · exact Text.unbroken_field (by decide) (unbroken_letters _ _ _)
      · have hproduct : Text.Hex.lowerPadded 4 (identity bytes).product = _ :=
          lowerPadded_word (bytes[10]?.getD 0) (bytes[11]?.getD 0)
        refine Text.unbroken_field (by decide) (Text.unbroken_append.mpr ⟨by decide, ?_⟩)
        rw [hproduct]
        exact unbroken_of_digits fun c => Text.Hex.mem_alphabet_of_mem_ofBytes
    · rw [lines_read_of_not_hasBlock hblock] at hname
      exact absurd hname List.not_mem_nil
  · rw [rowLines_eq] at hrow
    obtain ⟨row, hmem, rfl⟩ := List.mem_map.mp hrow
    refine Text.unbroken_append.mpr ⟨by decide, unbroken_of_digits fun c hc => ?_⟩
    exact mem_alphabet_of_mem_rows hmem hc

/-- The first line tells how many of the last lines are rows, and the rows tell the bytes. -/
theorem dumpText_inj {bytes other : List UInt8} (heq : dumpText bytes = dumpText other) :
    bytes = other := by
  have hlines : dumpLines bytes = dumpLines other :=
    Text.unlines_inj unbroken_of_mem_dumpLines unbroken_of_mem_dumpLines heq
  obtain ⟨hfirst, hlater⟩ := List.cons.inj hlines
  have hcount : bytes.length = other.length :=
    Text.decimal_inj ((String.append_left_inj _).mp (Text.field_inj hfirst))
  rw [rowLines_eq, rowLines_eq] at hlater
  have hlength : ((rows bytes).map rowLine).length = ((rows other).map rowLine).length := by
    simp only [rows, List.length_map, length_groups, hcount]
  have hrowLines := (List.append_inj' hlater hlength).2
  have hrows : rows bytes = rows other :=
    (List.map_inj_right fun _ _ => rowLine_inj).mp hrowLines
  have hdigits := congrArg List.flatten hrows
  rw [flatten_rows, flatten_rows] at hdigits
  have hread := congrArg Text.Hex.toBytes? hdigits
  rw [Text.Hex.toBytes?_ofBytes, Text.Hex.toBytes?_ofBytes] at hread
  exact Option.some.inj hread

/--
The parts of a dump: an identity, told exactly for what begins with a base block, and rows of
digits, all full but the last, that are read back as the bytes.
-/
structure IsDump (bytes : List UInt8) (names : List String) (rows : List (List Char)) : Prop where
  named : HasBlock bytes ->
    ∃ first second third, first < 32 ∧ second < 32 ∧ third < 32 ∧
      (256 * byteAt bytes 8 + byteAt bytes 9) % 32768 =
        first * 1024 + second * 32 + third ∧
      names =
        ["\tmanufacturer   : " ++ String.ofList
          [Char.ofNat (0x40 + first), Char.ofNat (0x40 + second), Char.ofNat (0x40 + third)],
         "\tproduct        : 0x" ++ String.ofList
          (Text.Hex.ofBytes [bytes[11]?.getD 0, bytes[10]?.getD 0])]
  nameless : ¬HasBlock bytes -> names = []
  count : rows.length = (bytes.length + 15) / 16
  digits : ∀ row ∈ rows, ∀ c ∈ row, c ∈ Text.Hex.alphabet
  full : ∀ row ∈ rows.dropLast, row.length = 32
  last : ∀ row, rows.getLast? = some row -> 2 ≤ row.length ∧ row.length ≤ 32
  lossless : Text.Hex.toBytes? rows.flatten = some bytes

theorem isDump (bytes : List UInt8) : IsDump bytes (read bytes).lines (rows bytes) where
  named := by
    intro hblock
    rw [read_of_hasBlock hblock]
    exact lines_identity bytes
  nameless := lines_read_of_not_hasBlock
  count := by
    rw [rows, List.length_map, length_groups]
    rfl
  digits := fun _ hrow _ hc => mem_alphabet_of_mem_rows hrow hc
  full := by
    intro row hrow
    rw [rows, ← List.map_dropLast] at hrow
    obtain ⟨group, hgroup, rfl⟩ := List.mem_map.mp hrow
    have hlength := length_of_mem_dropLast_groups _ hgroup
    rw [Text.Hex.ofBytes_length, hlength]
    rfl
  last := by
    intro row hrow
    obtain ⟨group, hgroup, rfl⟩ := List.mem_map.mp (List.mem_of_getLast? hrow)
    have hlength := length_of_mem_groups _ hgroup
    rw [rowLength] at hlength
    rw [Text.Hex.ofBytes_length]
    omega
  lossless := by
    rw [flatten_rows]
    exact Text.Hex.toBytes?_ofBytes bytes

theorem dumpText_eq (bytes : List UInt8) :
    dumpText bytes = Text.unlines
      (("\tedid           : " ++ Text.decimal bytes.length ++ " bytes") ::
        ((read bytes).lines ++ (rows bytes).map rowLine)) := by
  have hfirst : lengthLine bytes =
      "\tedid           : " ++ Text.decimal bytes.length ++ " bytes" := by
    have hfield : ∀ value, Text.field 15 "edid" value = "\tedid           : " ++ value :=
      Text.field_of_head (by decide)
    rw [lengthLine, hfield, String.append_assoc]
  rw [dumpText, dumpLines, rowLines_eq, hfirst]

/-! ## The dump in a run -/

section Run

variable {State : Type} (source : Source State)

theorem course_dump (id : UInt64) (bytes : List UInt8) (state : State) :
    ((dump id bytes).course source state).outcome = .ok () ∧
      Event.exchanges ((dump id bytes).course source state).events = [] ∧
      Event.written ((dump id bytes).course source state).events = dumpText bytes := by
  have htext : Text.unlines (dumpLines bytes) = lengthLine bytes ++ "\n" ++
      Text.unlines ((read bytes).lines ++ rowLines bytes) := Text.unlines_cons _ _
  unfold dump
  cases (read bytes).notice? id bytes <;>
    simp [Script.line, Script.text, Script.note, Script.bind, Script.course, dumpText, htext]

/-- The search for the blob's id writes nothing. -/
theorem written_findProperty (props : List UInt32) (state : State) :
    Event.written ((findProperty props).course source state).events = "" := by
  induction props generalizing state with
  | nil => rfl
  | cons id rest ih =>
      cases hanswer : source.answer state (.property id) with
      | mk answer after =>
          cases answer with
          | error cause => simpa [findProperty, Script.course, hanswer] using ih after
          | ok property =>
              by_cases hedid : isEdid property = true
              · simp [findProperty, Script.course, hanswer, hedid]
              · simpa [findProperty, Script.course, hanswer, hedid] using ih after

/-- The search asks for properties only. -/
theorem property_of_mem_findProperty {props : List UInt32} {state : State} {exchange : Exchange}
    (hmem : exchange ∈ Event.exchanges ((findProperty props).course source state).events) :
    ∃ id, exchange.query = .property id := by
  have hwalks : (findProperty props).Walks (fun _ _ => True)
      fun query => ∃ id, query = .property id :=
    findProperty_walks fun id _ => ⟨id, rfl⟩
  exact hwalks.asks.permitted_of_mem (fun _ _ => trivial) state hmem

/-- A blob that the lookup is given is dumped, and nothing else is written. -/
theorem course_script_of_blob {connector : Connector} {state : State} {id : UInt64}
    {bytes : List UInt8}
    (hblob : ⟨.blob id, .ok bytes⟩ ∈
      Event.exchanges ((script connector).course source state).events) :
    ((script connector).course source state).outcome = .ok () ∧
      Event.written ((script connector).course source state).events = dumpText bytes := by
  have hwalks : (findProperty connector.props).Walks (fun _ _ => True) fun _ => True :=
    findProperty_walks fun _ _ => trivial
  obtain ⟨property, hfound⟩ := hwalks.plain.exists_outcome_eq_ok source state
  have hsilent := written_findProperty source connector.props state
  rw [script, Script.bind_eq, Script.course_bind, Course.andThen_of_ok hfound] at hblob ⊢
  simp only [Event.exchanges_append, Event.written_append, hsilent] at hblob ⊢
  rcases List.mem_append.mp hblob with hsearch | hlater
  · obtain ⟨other, hother⟩ := property_of_mem_findProperty source hsearch
    exact absurd hother nofun
  · generalize ((findProperty connector.props).course source state).state = after at hlater ⊢
    cases hid : blobId? connector property with
    | none =>
        rw [hid] at hlater
        exact absurd hlater List.not_mem_nil
    | some blob =>
        rw [hid] at hlater
        cases hanswer : source.answer after (.blob blob) with
        | mk answer last =>
            cases answer with
            | error cause =>
                simp [Script.query, Script.bind, Script.course, Script.note, Script.line, hanswer]
                  at hlater
            | ok data =>
                obtain ⟨houtcome, hexchanges, hwritten⟩ := course_dump source blob data last
                simp only [Script.query, Script.bind_eq, Script.bind, Script.course, hanswer,
                  Course.events_after, Event.exchanges_asked_cons, hexchanges,
                  List.mem_singleton] at hlater
                cases hlater
                simp only [Script.query, Script.bind_eq, Script.bind, Script.course, hanswer,
                  Course.events_after, Course.outcome_after, Event.written_asked_cons, hwritten]
                exact ⟨houtcome, String.empty_append⟩

end Run

/--
The dump of identification data is lossless.  Whatever blob the lookup is given, it writes the
length of the blob, the identity in it, if it begins with a base block, and rows of digits that are
read back as the bytes of the blob; so no other blob has the same dump.  A parser that accepts base
blocks and reads the identity in them is given nothing that is too short for one.
-/
theorem dump_is_lossless {State : Type} (source : Source State) (connector : Connector)
    (state : State) (sink : Sink) {id : UInt64} {bytes : List UInt8}
    (hblob : ⟨.blob id, .ok bytes⟩ ∈
      ((script connector).run source state sink.unhindered).exchanges) :
    let run := (script connector).run source state sink.unhindered
    run.outcome = .ok () ∧
      run.sink.bytes = sink.bytes ++ Text.Utf8.encode (dumpText bytes) ∧
      (∃ names rows, IsDump bytes names rows ∧
        dumpText bytes = Text.unlines
          (("\tedid           : " ++ Text.decimal bytes.length ++ " bytes") ::
            (names ++ rows.map fun row => "\t\t" ++ String.ofList row))) ∧
      (∀ other, dumpText other = dumpText bytes -> other = bytes) ∧
      ∀ parse : Whole -> Option Identity, Parses parse -> read bytes = readBy parse bytes := by
  intro run
  obtain ⟨houtcome, hexchanges, -, hbytes⟩ :=
    Script.run_unhindered source (script connector) state sink
  rw [hexchanges] at hblob
  obtain ⟨hok, hwritten⟩ := course_script_of_blob source hblob
  refine ⟨houtcome.trans hok, ?_, ⟨_, _, isDump bytes, dumpText_eq bytes⟩,
    fun other heq => dumpText_inj heq, fun parse hparse => read_eq_readBy hparse bytes⟩
  rw [← hwritten]
  exact hbytes

/-- Of a blob that is a byte longer than a base block the last row has two digits. -/
theorem dump_of_block_and_byte :
    let bytes := Samples.edid ++ [0x0A]
    let card : Card :=
      { properties := Table.ofList [(2, .ok Samples.identification)]
        blobs := Table.ofList [(100, .ok bytes)] }
    let connector : Connector := { props := [7, 2], propValues := [3, 100] }
    let run := (script connector).run (card.source []) 0 Sink.unlimited.unhindered
    ⟨.blob 100, .ok bytes⟩ ∈ run.exchanges ∧
      ∃ rows : List (List Char), rows.length = 9 ∧
        Text.Hex.toBytes? rows.flatten = some bytes ∧
        run.sink.bytes = Text.Utf8.encode (Text.unlines
          (["\tedid           : 129 bytes", "\tmanufacturer   : DEL",
            "\tproduct        : 0xa0b1"] ++ rows.map rowLine)) := by
  intro bytes card connector run
  have hasked : run.exchanges =
      Event.exchanges ((script connector).course (card.source []) 0).events :=
    (Script.run_unhindered (card.source []) (script connector) 0 Sink.unlimited).2.1
  have hblob : ⟨.blob 100, .ok bytes⟩ ∈ run.exchanges := by
    rw [hasked]
    exact .tail _ (.tail _ (.head _))
  have hlength : bytes.length = 129 := by decide +kernel
  have hblock : HasBlock bytes := ⟨by rw [hlength]; decide, by decide +kernel⟩
  obtain ⟨-, hbytes, ⟨names, rows, hdump, htext⟩, -⟩ :=
    dump_is_lossless (card.source []) connector 0 Sink.unlimited hblob
  obtain ⟨first, second, third, hfirst, hsecond, hthird, hword, hnames⟩ := hdump.named hblock
  have hvalue : (256 * byteAt bytes 8 + byteAt bytes 9) % 2 ^ 15 = 4268 := by decide +kernel
  obtain rfl : first = 4 := by omega
  obtain rfl : second = 5 := by omega
  obtain rfl : third = 12 := by omega
  have hnamed : names = ["\tmanufacturer   : DEL", "\tproduct        : 0xa0b1"] :=
    hnames.trans (by decide +kernel)
  have hfirstLine : "\tedid           : " ++ Text.decimal 129 ++ " bytes" =
      "\tedid           : 129 bytes" := by decide
  refine ⟨hblob, rows, by rw [hdump.count, hlength], hdump.lossless, ?_⟩
  rw [htext, hlength, hfirstLine, hnamed] at hbytes
  exact hbytes

end DisplayInventory.Edid
