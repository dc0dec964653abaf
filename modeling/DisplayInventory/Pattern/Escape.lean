import DisplayInventory.Pattern.Fault
import DisplayInventory.Pattern.Tree
import DisplayInventory.Text.Hex

/-!
# Escapes

A backslash gives the sign behind it another meaning: it takes the special meaning from a sign that
has one, and lends one to most letters.  All readers here begin at the sign in question and leave
the cursor behind what they read.
-/

namespace DisplayInventory.Pattern

def isEscapable (c : Char) : Bool :=
  c.toNat < 0x80 && !c.isAlphanum && c != '<' && c != '>'

def controlOf? : Char -> Option Char
  | 'a' => some (Char.ofNat 0x07)
  | 'f' => some (Char.ofNat 0x0C)
  | 't' => some '\t'
  | 'n' => some '\n'
  | 'r' => some '\r'
  | 'v' => some (Char.ofNat 0x0B)
  | _ => none

/-- The kind of characters that a letter stands for behind a backslash, and whether it stands for
all the others instead. -/
def shorthandOf? : Char -> Option (Shorthand × Bool)
  | 'd' => some (.digit, false)
  | 's' => some (.space, false)
  | 'w' => some (.word, false)
  | 'D' => some (.digit, true)
  | 'S' => some (.space, true)
  | 'W' => some (.word, true)
  | _ => none

def assertionOf? : Char -> Option Assertion
  | 'A' => some .textStart
  | 'z' => some .textStop
  | 'b' => some (.edge .either)
  | 'B' => some (.edge .neither)
  | '<' => some (.edge .start)
  | '>' => some (.edge .stop)
  | _ => none

/-- The number of digits behind the letter of a character that is written by its code point. -/
def hexLength? : Char -> Option Nat
  | 'x' => some 2
  | 'u' => some 4
  | 'U' => some 8
  | _ => none

def hexValue (digits : List Char) : Nat :=
  digits.foldl (fun value c => 16 * value + (Text.Hex.value? c).getD 0) 0

def charOf? (n : Nat) : Option Char :=
  if n.isValidChar then some (Char.ofNat n) else none

def readHexDigits (loose : Bool) : Nat -> Cursor -> Except Fault (List Char × Cursor)
  | 0, cursor => .ok ([], cursor)
  | count + 1, cursor =>
      match cursor.rest with
      | [] => .error ⟨.escapeUnfinished, cursor.here, none⟩
      | c :: _ =>
          if (Text.Hex.value? c).isSome then do
            let (digits, past) <- readHexDigits loose count (cursor.next loose)
            return (c :: digits, past)
          else .error ⟨.hexDigit, cursor.charSpan, none⟩

def readHexFixed (loose : Bool) (start : Mark) (length : Nat) (cursor : Cursor) :
    Except Fault (Literal × Cursor) := do
  let (digits, past) <- readHexDigits loose length cursor
  match charOf? (hexValue digits) with
  | some c => return (⟨past.since start, length == 2, c⟩, past)
  | none => .error ⟨.hexNotCharacter, past.since cursor.mark, none⟩

def readHexBraced (loose : Bool) (start : Mark) (cursor : Cursor) :
    Except Fault (Literal × Cursor) :=
  let (digits, last) :=
    (cursor.next loose).takeWhile loose fun c => (Text.Hex.value? c).isSome
  match last.rest with
  | [] => .error ⟨.escapeUnfinished, last.since cursor.mark, none⟩
  | '}' :: _ =>
      let past := last.next loose
      if digits.isEmpty then .error ⟨.hexEmpty, past.since cursor.mark, none⟩
      else
        match charOf? (hexValue digits) with
        | some c => .ok (⟨past.since start, false, c⟩, past)
        | none => .error ⟨.hexNotCharacter, last.since cursor.step.mark, none⟩
  | _ => .error ⟨.hexDigit, last.charSpan, none⟩

def readHex (loose : Bool) (start : Mark) (length : Nat) (cursor : Cursor) :
    Except Fault (Literal × Cursor) :=
  let inner := cursor.next loose
  match inner.rest with
  | [] => .error ⟨.escapeUnfinished, inner.here, none⟩
  | '{' :: _ => readHexBraced loose start inner
  | _ => readHexFixed loose start length inner

def readProperty (loose : Bool) (start : Mark) (cursor : Cursor) : Except Fault (Tree × Cursor) :=
  let inner := cursor.next loose
  match inner.rest with
  | [] => .error ⟨.escapeUnfinished, inner.here, none⟩
  | '{' :: _ =>
      let (name, last) := (inner.next loose).takeWhile loose (· != '}')
      if last.isDone then .error ⟨.escapeUnfinished, last.here, none⟩
      else .ok (.property (last.step.since start) name, last.step)
  | '\\' :: _ => .error ⟨.propertyLetter, inner.charSpan, none⟩
  | c :: _ => .ok (.property ((inner.next loose).since start) [c], inner.next loose)

def edgeNamed? (name : List Char) : Option Edge :=
  match String.ofList name with
  | "start" => some .start
  | "end" => some .stop
  | "start-half" => some .startHalf
  | "end-half" => some .stopHalf
  | _ => none

/-- Reads the name of an edge, at the brace before it; what looks like a count is left alone. -/
def readEdge (loose : Bool) (start : Mark) (cursor : Cursor) :
    Except Fault (Option (Edge × Cursor)) :=
  let nameChar := fun c : Char => c.isAlpha || c == '-'
  let inner := cursor.next loose
  match inner.rest with
  | [] => .error ⟨.edgeUnfinished, inner.since start, none⟩
  | c :: _ =>
      if nameChar c then
        let (name, last) := inner.takeWhile loose nameChar
        if last.rest.head? = some '}' then
          match edgeNamed? name with
          | some edge => .ok (some (edge, last.step))
          | none => .error ⟨.edgeUnknown, last.since inner.mark, none⟩
        else .error ⟨.edgeUnclosed, last.since cursor.mark, none⟩
      else .ok none

def readAssertion (loose : Bool) (start : Mark) (assertion : Assertion) (cursor : Cursor) :
    Except Fault (Tree × Cursor) :=
  let plain := (Tree.assertion (cursor.since start) assertion, cursor)
  if assertion = .edge .either ∧ cursor.rest.head? = some '{' then do
    match <- readEdge loose start cursor with
    | some (edge, past) => return (.assertion (past.since start) (.edge edge), past)
    | none => return plain
  else .ok plain

def readEscape (loose : Bool) (cursor : Cursor) : Except Fault (Tree × Cursor) :=
  let start := cursor.mark
  let inner := cursor.step
  match inner.rest with
  | [] => .error ⟨.escapeUnfinished, inner.since start, none⟩
  | c :: _ =>
      let past := inner.step
      let span := past.since start
      if c.isDigit then .error ⟨.backreference, span, none⟩
      else if c = 'p' ∨ c = 'P' then readProperty loose start inner
      else if isEscapable c then .ok (.literal ⟨span, false, c⟩, past)
      else
        match hexLength? c, shorthandOf? c, controlOf? c, assertionOf? c with
        | some length, _, _, _ => do
            let (literal, past) <- readHex loose start length inner
            return (.literal literal, past)
        | _, some (kind, negated), _, _ => .ok (.shorthand span kind negated, past)
        | _, _, some control, _ => .ok (.literal ⟨span, false, control⟩, past)
        | _, _, _, some assertion => readAssertion loose start assertion past
        | none, none, none, none => .error ⟨.escapeUnknown, span, none⟩

end DisplayInventory.Pattern
