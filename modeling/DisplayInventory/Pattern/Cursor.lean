import DisplayInventory.Text.Blank

/-!
# Reading a pattern from left to right

A cursor is what is left of a pattern, with the mark where it begins.  Marks count lines and columns
from one, so that a fault can be pointed out in the written pattern.  Where a pattern is written
loosely, blanks and comments between its signs do not count.
-/

namespace DisplayInventory.Pattern

/-- A place in a written pattern. -/
structure Mark where
  /-- The number of characters before it. -/
  offset : Nat := 0
  line : Nat := 1
  column : Nat := 1
  deriving DecidableEq

def Mark.after (mark : Mark) (c : Char) : Mark :=
  if c = '\n' then ⟨mark.offset + 1, mark.line + 1, 1⟩
  else ⟨mark.offset + 1, mark.line, mark.column + 1⟩

structure Span where
  start : Mark
  stop : Mark
  deriving DecidableEq

structure Cursor where
  mark : Mark := {}
  rest : List Char
  deriving DecidableEq

namespace Cursor

def isDone (cursor : Cursor) : Bool :=
  cursor.rest.isEmpty

def here (cursor : Cursor) : Span :=
  ⟨cursor.mark, cursor.mark⟩

def since (cursor : Cursor) (start : Mark) : Span :=
  ⟨start, cursor.mark⟩

def charSpan (cursor : Cursor) : Span :=
  match cursor.rest with
  | [] => cursor.here
  | c :: _ => ⟨cursor.mark, cursor.mark.after c⟩

def step (cursor : Cursor) : Cursor :=
  match cursor.rest with
  | [] => cursor
  | c :: rest => ⟨cursor.mark.after c, rest⟩

def past? (cursor : Cursor) : List Char -> Option Cursor
  | [] => some cursor
  | c :: text => if cursor.rest.head? = some c then cursor.step.past? text else none

def skipFrom (mark : Mark) (commented : Bool) : List Char -> Cursor
  | [] => ⟨mark, []⟩
  | c :: rest =>
      if commented then skipFrom (mark.after c) (c != '\n') rest
      else if Text.isBlank c then skipFrom (mark.after c) false rest
      else if c = '#' then skipFrom (mark.after c) true rest
      else ⟨mark, c :: rest⟩

/-- The cursor at the next sign that counts. -/
def skip (cursor : Cursor) (loose : Bool) : Cursor :=
  if loose then skipFrom cursor.mark false cursor.rest else cursor

def next (cursor : Cursor) (loose : Bool) : Cursor :=
  cursor.step.skip loose

/-- What is passed over before the next sign. -/
inductive Gap where
  | nothing
  | blanks
  /-- The rest of a line, and blanks behind it. -/
  | comment
  deriving DecidableEq

def Gap.over? (gap : Gap) (c : Char) : Option Gap :=
  match gap with
  | .nothing => none
  | .blanks => if Text.isBlank c then some .blanks else if c = '#' then some .comment else none
  | .comment => some (if c = '\n' then .blanks else .comment)

/-- The signs up to the first that fails a test, with a gap before the first and another gap
behind each. -/
def collect (test : Char -> Bool) (between : Gap) (mark : Mark) (gap : Gap) :
    List Char -> List Char × Cursor
  | [] => ([], ⟨mark, []⟩)
  | c :: rest =>
      match gap.over? c with
      | some gap => collect test between (mark.after c) gap rest
      | none =>
          if test c then
            let (more, last) := collect test between (mark.after c) between rest
            (c :: more, last)
          else ([], ⟨mark, c :: rest⟩)

theorem passes_of_mem_collect {test : Char -> Bool} {between : Gap} {mark : Mark} {gap : Gap}
    {chars : List Char} {c : Char} (hmem : c ∈ (collect test between mark gap chars).1) :
    test c := by
  induction chars generalizing mark gap with
  | nil => simp [collect] at hmem
  | cons first rest ih =>
      rw [collect] at hmem
      split at hmem
      · exact ih hmem
      · split at hmem
        · rename_i htest
          rcases List.mem_cons.1 hmem with rfl | hrest
          · exact htest
          · exact ih hrest
        · simp at hmem

def takeWhile (cursor : Cursor) (loose : Bool) (test : Char -> Bool) : List Char × Cursor :=
  collect test (if loose then .blanks else .nothing) cursor.mark .nothing cursor.rest

/-- The sign behind the next character.  A comment there is judged by its first sign, and where
nothing but blanks is left, the first of them is taken. -/
def second? (cursor : Cursor) (loose : Bool) : Option Char :=
  let behind := cursor.rest.tail
  if loose then
    let sign :=
      match behind.dropWhile Text.isBlank with
      | '#' :: comment => (comment.dropWhile Text.isBlank).head?
      | signs => signs.head?
    sign.or behind.head?
  else behind.head?

end Cursor

end DisplayInventory.Pattern
