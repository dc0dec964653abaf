import DisplayInventory.Text.Utf8

/-!
# Visible text

A text can hold control sequences, with which it would colour what follows on a terminal, move the
cursor there or name the window.  `visible` leaves them out together with all other control
characters; only white space of ASCII stays.

The machine that finds the sequences takes one character at a time.  Where white space stands
within a sequence, it is shown, and so is what follows up to the next control character; there the
sequence goes on as if nothing had come between.  Main statement: what is left has no control
characters.
-/

namespace DisplayInventory.Text

/-- Where in a control sequence a character stands. -/
inductive Control where
  /-- In none. -/
  | plain
  /-- Behind the escape sign. -/
  | escape
  /-- Behind the escape sign and marks that its last sign belongs to. -/
  | marked
  /-- In a command, up to its last sign. -/
  | command
  /-- At the head of a device string. -/
  | device
  /-- At the numbers of a device string. -/
  | deviceNumbers
  /-- At the marks of a device string. -/
  | deviceMarks
  /-- In a string that its terminator ends. -/
  | string
  /-- In a string that a bell ends too. -/
  | title
  deriving DecidableEq

def isMark (c : Char) : Bool :=
  ' ' <= c && c <= '/'

def isNumberSign (c : Char) : Bool :=
  '0' <= c && c <= ';'

def isFinal (c : Char) : Bool :=
  '@' <= c && c <= '~'

/-- Whether a character has the byte of a string terminator in it. -/
def hasTerminator (c : Char) : Bool :=
  (Utf8.encode (String.singleton c)).contains 0x9C

namespace Control

def opened (c : Char) : Control :=
  if c = '[' then .command
  else if c = ']' then .title
  else if c = 'P' then .device
  else if c = 'X' ∨ c = '^' ∨ c = '_' then .string
  else if isMark c then .marked
  else if '0' <= c && c <= '~' then .plain
  else .escape

def after (control : Control) (c : Char) : Control :=
  if c.toNat = 0x1B then .escape
  else if c.toNat = 0x18 ∨ c.toNat = 0x1A then .plain
  else
    match control with
    | .plain => .plain
    | .escape => opened c
    | .marked => if '0' <= c && c <= '~' then .plain else .marked
    | .command => if isFinal c then .plain else .command
    | .device =>
        if isMark c then .deviceMarks
        else if '0' <= c && c <= '?' then .deviceNumbers
        else if isFinal c then .string
        else .device
    | .deviceNumbers =>
        if isMark c then .deviceMarks
        else if isNumberSign c then .deviceNumbers
        else if '<' <= c && c <= '~' then .string
        else .deviceNumbers
    | .deviceMarks => if '0' <= c && c <= '~' then .string else .deviceMarks
    | .string => if hasTerminator c then .plain else .string
    | .title => if c.toNat = 0x07 then .plain else .title

/-- Whether a character is shown.  Within sequences that are no strings white space is. -/
def shows (control : Control) (c : Char) : Bool :=
  let isSpace := c == '\t' || c == '\n' || c == '\r' || c.toNat == 0x0C
  match control with
  | .plain => isSpace || (' ' <= c && c.toNat != 0x7F)
  | .escape | .marked | .command => isSpace
  | _ => false

/-- What is shown within a sequence is shown outside too. -/
theorem shows_plain {control : Control} {c : Char} (hshows : control.shows c) :
    plain.shows c := by
  cases control <;> simp_all [shows]

end Control

/-- The shown characters from a place on.  Behind a shown one all are taken as they are outside of
sequences. -/
def visibleFrom (control : Control) (shown : Bool) : List Char -> List Char
  | [] => []
  | c :: rest =>
      if (if shown then Control.plain else control).shows c then
        c :: visibleFrom (if c.toNat < 0x80 then control else .plain) true rest
      else visibleFrom (control.after c) false rest

theorem shows_of_mem_visibleFrom {control : Control} {shown : Bool} {chars : List Char} {c : Char}
    (hmem : c ∈ visibleFrom control shown chars) : Control.plain.shows c := by
  induction chars generalizing control shown with
  | nil => simp [visibleFrom] at hmem
  | cons first rest ih =>
      by_cases hshows : (if shown then Control.plain else control).shows first
      · rw [visibleFrom, if_pos hshows] at hmem
        rcases List.mem_cons.1 hmem with rfl | hrest
        · exact Control.shows_plain hshows
        · exact ih hrest
      · rw [visibleFrom, if_neg hshows] at hmem
        exact ih hmem

/-- Characters that are all shown outside of sequences stay. -/
theorem visibleFrom_of_shows {chars : List Char}
    (hshows : ∀ c ∈ chars, Control.plain.shows c) (shown : Bool) :
    visibleFrom .plain shown chars = chars := by
  induction chars generalizing shown with
  | nil => rfl
  | cons c rest ih =>
      have hc := hshows c (by simp)
      have hrest := ih (fun other hother => hshows other (by simp [hother])) true
      simp [visibleFrom, hc, hrest]

def visible (text : String) : String :=
  String.ofList (visibleFrom .plain true text.toList)

theorem visible_visible (text : String) : visible (visible text) = visible text := by
  have hshows : ∀ c ∈ visibleFrom .plain true text.toList, Control.plain.shows c :=
    fun c hc => shows_of_mem_visibleFrom hc
  simp [visible, visibleFrom_of_shows hshows]

end DisplayInventory.Text
