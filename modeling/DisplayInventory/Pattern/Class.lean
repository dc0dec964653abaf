import DisplayInventory.Pattern.Escape

/-!
# Classes

Brackets hold the members of a class: characters, ranges, named classes and further brackets.  Two
equal signs between members combine what stands before them with what stands behind.  Brackets in
brackets are kept on a stack while the inner ones are read.
-/

namespace DisplayInventory.Pattern

/-- The members read so far between brackets, the last one first. -/
structure Union where
  span : Span
  parts : List Members := []

namespace Union

def nil (cursor : Cursor) : Union :=
  { span := cursor.here }

def push (union : Union) (part : Members) : Union :=
  let start := if union.parts.isEmpty then part.span.start else union.span.start
  ⟨⟨start, part.span.stop⟩, part :: union.parts⟩

def close (union : Union) : Members :=
  .ofParts union.span union.parts.reverse

end Union

/-- What waits on the stack while a class is read. -/
inductive ClassFrame where
  /-- A bracket that is open, and the members around it. -/
  | bracket (span : Span) (negated : Bool) (around : Union)
  /-- The first operand of a combination. -/
  | operand (operation : ClassOperation) (first : Members)

def unclosedClass (cursor : Cursor) : List ClassFrame -> Fault
  | [] => ⟨.classUnclosed, cursor.here, none⟩
  | .bracket span _ _ :: _ => ⟨.classUnclosed, span, none⟩
  | .operand _ _ :: rest => unclosedClass cursor rest

/-- The members of a combination whose second operand is complete, and the frames below it. -/
def combined (second : Members) : List ClassFrame -> Members × List ClassFrame
  | .operand operation first :: rest =>
      (.combine ⟨first.span.start, second.span.stop⟩ operation first second, rest)
  | frames => (second, frames)

def asciiClass? (name : List Char) : Option AsciiClass :=
  match String.ofList name with
  | "alnum" => some .alnum
  | "alpha" => some .alpha
  | "ascii" => some .ascii
  | "blank" => some .blank
  | "cntrl" => some .cntrl
  | "digit" => some .digit
  | "graph" => some .graph
  | "lower" => some .lower
  | "print" => some .print
  | "punct" => some .punct
  | "space" => some .space
  | "upper" => some .upper
  | "word" => some .word
  | "xdigit" => some .xdigit
  | _ => none

def readNamed? (cursor : Cursor) : Option (Members × Cursor) := do
  let inner <- cursor.past? ['[', ':']
  let (negated, inner) :=
    match inner.past? ['^'] with
    | some past => (true, past)
    | none => (false, inner)
  let (name, last) := inner.takeWhile false (· != ':')
  let past <- last.past? [':', ']']
  let named <- asciiClass? name
  return (.named (past.since cursor.mark) named negated, past)

def asMember : Tree -> Except Fault Members
  | .literal sign => .ok (.literal sign)
  | .shorthand span kind negated => .ok (.shorthand span kind negated)
  | .property span name => .ok (.property span name)
  | other => .error ⟨.classEscape, other.span, none⟩

def asBoundary : Tree -> Except Fault Literal
  | .literal sign => .ok sign
  | other => .error ⟨.classRangeBoundary, other.span, none⟩

def readSign (loose : Bool) (cursor : Cursor) : Except Fault (Tree × Cursor) :=
  match cursor.rest with
  | '\\' :: _ => readEscape loose cursor
  | c :: _ => .ok (.literal ⟨cursor.charSpan, false, c⟩, cursor.step)
  | [] => .error ⟨.classUnclosed, cursor.here, none⟩

/-- Reads a member that is neither bracketed nor named: a sign, or two that bound a range.  A minus
sign makes no range before another one or at the end of the class. -/
def readRange (loose : Bool) (frames : List ClassFrame) (cursor : Cursor) :
    Except Fault (Members × Cursor) := do
  let (first, past) <- readSign loose cursor
  let between := past.skip loose
  let second := between.second? loose
  if between.isDone then .error (unclosedClass between frames)
  else if between.rest.head? ≠ some '-' ∨ second = some ']' ∨ second = some '-' then
    return (<- asMember first, between)
  else
    let inner := between.next loose
    if inner.isDone then .error (unclosedClass inner frames)
    else
      let (last, past) <- readSign loose inner
      let span : Span := ⟨first.span.start, last.span.stop⟩
      let lower <- asBoundary first
      let upper <- asBoundary last
      if upper.char < lower.char then .error ⟨.classRangeOrder, span, none⟩
      else return (.range span lower upper, past)

def readMinuses (loose : Bool) (start : Mark) :
    Nat -> Union -> Cursor -> Except Fault (Union × Cursor)
  | 0, union, cursor => .ok (union, cursor)
  | fuel + 1, union, cursor =>
      match cursor.rest with
      | '-' :: _ =>
          let union := union.push (.literal ⟨cursor.charSpan, false, '-'⟩)
          let past := cursor.next loose
          if past.isDone then .error ⟨.classUnclosed, ⟨start, start⟩, none⟩
          else readMinuses loose start fuel union past
      | _ => .ok (union, cursor)

/--
Reads the bracket that opens a class with the signs that are special only there: whether the class
is negated, minus signs, and a closing bracket as its first member.  The fuel need not exceed the
number of signs.
-/
def readOpening (loose : Bool) (fuel : Nat) (around : Union) (cursor : Cursor) :
    Except Fault (ClassFrame × Union × Cursor) := do
  let start := cursor.mark
  let unclosed := fun cursor : Cursor => Fault.mk .classUnclosed (cursor.since start) none
  let inner := cursor.next loose
  let negated := inner.rest.head? = some '^'
  let first := if negated then inner.next loose else inner
  if first.isDone then .error (unclosed first)
  else
    let (union, past) <- readMinuses loose start fuel (Union.nil first) first
    if union.parts.isEmpty ∧ past.rest.head? = some ']' then
      let behind := past.next loose
      if behind.isDone then .error (unclosed behind)
      else
        let union := union.push (.literal ⟨past.charSpan, false, ']'⟩)
        return (.bracket (behind.since start) negated around, union, behind)
    else return (.bracket (past.since start) negated around, union, past)

def operationOf? : List Char -> Option ClassOperation
  | '&' :: '&' :: _ => some .intersection
  | '-' :: '-' :: _ => some .difference
  | '~' :: '~' :: _ => some .symmetricDifference
  | _ => none

/-- Reads the rest of a class, with the brackets that are open and the members of the innermost.
Every round passes over a sign at least, so the fuel need not exceed the number of signs by more
than one. -/
def readMembers (loose : Bool) :
    Nat -> List ClassFrame -> Union -> Cursor -> Except Fault (Tree × Cursor)
  | 0, frames, _, cursor => .error (unclosedClass cursor frames)
  | fuel + 1, frames, union, cursor =>
      let cursor := cursor.skip loose
      match cursor.rest with
      | [] => .error (unclosedClass cursor frames)
      | '[' :: _ =>
          match if frames.isEmpty then none else readNamed? cursor with
          | some (named, past) => readMembers loose fuel frames (union.push named) past
          | none => do
              let (frame, inner, past) <- readOpening loose fuel union cursor
              readMembers loose fuel (frame :: frames) inner past
      | ']' :: _ =>
          match combined union.close frames with
          | (members, .bracket span negated around :: rest) =>
              let past := cursor.step
              let span := past.since span.start
              if rest.isEmpty then .ok (.bracket span negated members, past)
              else
                readMembers loose fuel rest (around.push (.bracket span negated members)) past
          | (_, rest) => .error (unclosedClass cursor rest)
      | signs =>
          match operationOf? signs with
          | some operation =>
              let (first, rest) := combined union.close frames
              let past := cursor.step.step
              readMembers loose fuel (.operand operation first :: rest) (Union.nil past) past
          | none => do
              let (part, past) <- readRange loose frames cursor
              readMembers loose fuel frames (union.push part) past

def readClass (loose : Bool) (fuel : Nat) (cursor : Cursor) : Except Fault (Tree × Cursor) :=
  readMembers loose fuel [] (Union.nil cursor) cursor

end DisplayInventory.Pattern
