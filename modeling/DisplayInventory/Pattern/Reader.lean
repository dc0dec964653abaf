import DisplayInventory.Pattern.Class
import DisplayInventory.Text.Letters

/-!
# Reading patterns

A pattern is read part by part.  Groups that are open wait on a stack, each with the parts before
it; so do the branches of an alternation.  `Tree.ofText` reads a whole pattern or tells its first
fault.
-/

namespace DisplayInventory.Pattern

/-- The parts of a branch read so far, the last one first. -/
structure Branch where
  start : Mark
  parts : List Tree := []

def Branch.close (branch : Branch) (stop : Mark) : Tree :=
  .ofParts ⟨branch.start, stop⟩ branch.parts.reverse

def Branch.push (branch : Branch) (part : Tree) : Branch :=
  { branch with parts := part :: branch.parts }

/-- What waits on the stack while a pattern is read. -/
inductive Frame where
  /-- A group that is open, the branch before it, and how that branch is written. -/
  | group (before : Branch) (span : Span) (kind : GroupKind) (loose : Bool)
  /-- Branches of an alternation, the last one first. -/
  | alternation (start : Mark) (branches : List Tree)

structure Reader where
  cursor : Cursor
  loose : Bool := false
  frames : List Frame := []
  branch : Branch
  /-- The number of the last group that keeps what it passes over. -/
  groups : Nat := 0
  /-- The names of groups read so far. -/
  names : List (List Char × Span) := []

/-! ## Groups -/

def flagOf? : Char -> Option Flag
  | 'i' => some .caseless
  | 'm' => some .multiline
  | 's' => some .dotAll
  | 'U' => some .swapGreed
  | 'u' => some .wide
  | 'R' => some .carriageReturn
  | 'x' => some .loose
  | _ => none

def readFlagSign (c : Char) (cursor : Cursor) : Except Fault FlagSign :=
  if c = '-' then .ok .negation
  else
    match flagOf? c with
    | some flag => .ok (.flag flag)
    | none => .error ⟨.flagUnknown, cursor.charSpan, none⟩

def signCount : Nat := 8

/-- Reads a change of flags up to the sign that ends it; no sign of it occurs twice, and the last
one is a flag.  So the fuel need not exceed the number of signs by more than one. -/
def readFlags : Nat -> List (FlagSign × Span) -> Cursor -> Except Fault (FlagChange × Cursor)
  | 0, _, cursor => .error ⟨.flagsUnfinished, cursor.here, none⟩
  | fuel + 1, signs, cursor =>
      match cursor.rest with
      | [] => .error ⟨.flagsUnfinished, cursor.here, none⟩
      | c :: _ =>
          if c = ':' ∨ c = ')' then
            match signs with
            | (.negation, span) :: _ => .error ⟨.flagDangling, span, none⟩
            | _ => .ok (signs.reverse.map Prod.fst, cursor)
          else do
            let sign <- readFlagSign c cursor
            match signs.find? fun earlier => earlier.1 = sign with
            | some earlier =>
                let cause := if sign = .negation then Cause.flagNegationRepeated else .flagRepeated
                .error ⟨cause, cursor.charSpan, some earlier.2⟩
            | none => readFlags fuel ((sign, cursor.charSpan) :: signs) cursor.step

def isNameChar (first : Bool) (c : Char) : Bool :=
  c == '_' || Text.isLetter c ||
    (!first && (Text.isNumeral c || c == '.' || c == '[' || c == ']'))

def readNameChars : Bool -> Nat -> Cursor -> Except Fault (List Char × Cursor)
  | _, 0, cursor => .error ⟨.nameUnclosed, cursor.here, none⟩
  | first, fuel + 1, cursor =>
      match cursor.rest with
      | [] => .error ⟨.nameUnclosed, cursor.here, none⟩
      | c :: _ =>
          if c = '>' then .ok ([], cursor)
          else if isNameChar first c then do
            let (name, last) <- readNameChars false fuel cursor.step
            return (c :: name, last)
          else .error ⟨.nameCharacter, cursor.charSpan, none⟩

/-- Reads the name of a group, which no other group may have. -/
def readName (fuel : Nat) (names : List (List Char × Span)) (cursor : Cursor) :
    Except Fault ((List Char × Span) × Cursor) := do
  let (name, last) <- readNameChars true fuel cursor
  let span := last.since cursor.mark
  if name.isEmpty then .error ⟨.nameEmpty, span, none⟩
  else
    match names.find? fun earlier => earlier.1 == name with
    | some earlier => .error ⟨.nameRepeated, span, some earlier.2⟩
    | none => return ((name, span), last.step)

namespace Reader

def push (reader : Reader) (part : Tree) (cursor : Cursor) : Reader :=
  { reader with branch := reader.branch.push part, cursor }

def enter (reader : Reader) (span : Span) (kind : GroupKind) (cursor : Cursor) : Reader :=
  { reader with
    cursor
    loose := (kind.change.setting? .loose).getD reader.loose
    frames := .group reader.branch span kind reader.loose :: reader.frames
    branch := ⟨cursor.mark, []⟩ }

def enterKept (reader : Reader) (span : Span) (cursor : Cursor) : Reader :=
  let number := reader.groups + 1
  { reader.enter span (.kept number) cursor with groups := number }

/-- Reads a change of flags, which either stands alone or opens a group, behind its question
mark. -/
def readChange (reader : Reader) (span : Span) (question cursor : Cursor) :
    Except Fault Reader := do
  if cursor.isDone then .error ⟨.groupUnclosed, span, none⟩
  else
    let (change, last) <- readFlags (signCount + 1) [] cursor
    let past := last.step
    if last.rest.head? = some ')' then
      if change.isEmpty then .error ⟨.nothingRepeated, question.here, none⟩
      else
        let reader := { reader with loose := (change.setting? .loose).getD reader.loose }
        return reader.push (.flags (past.since span.start) change) past
    else return reader.enter span (.plain change) past

def openGroup (reader : Reader) (fuel : Nat) : Except Fault Reader := do
  let span := reader.cursor.charSpan
  let inner := reader.cursor.next reader.loose
  let around :=
    [['?', '='], ['?', '!'], ['?', '<', '='], ['?', '<', '!']].findSome? inner.past?
  match around with
  | some past => .error ⟨.lookAround, past.since span.start, none⟩
  | none =>
      match (inner.past? ['?', 'P', '<']).or (inner.past? ['?', '<']) with
      | some past =>
          let (name, past) <- readName fuel reader.names past
          return { reader.enterKept span past with names := name :: reader.names }
      | none =>
          match inner.past? ['?'] with
          | some past => reader.readChange span inner past
          | none => return reader.enterKept span inner

/-- The branches in front of the cursor as one pattern, and the frames below them. -/
def closeBranches (reader : Reader) : Tree × List Frame :=
  let last := reader.branch.close reader.cursor.mark
  match reader.frames with
  | .alternation start branches :: rest =>
      (.alternation ⟨start, reader.cursor.mark⟩ (last :: branches).reverse, rest)
  | frames => (last, frames)

def closeGroup (reader : Reader) : Except Fault Reader :=
  match reader.closeBranches with
  | (body, .group before span kind loose :: rest) =>
      let past := reader.cursor.step
      let group := Tree.group (past.since span.start) kind body
      .ok { reader with cursor := past, loose, frames := rest, branch := before.push group }
  | _ => .error ⟨.groupUnopened, reader.cursor.charSpan, none⟩

def nextBranch (reader : Reader) : Reader :=
  let closed := reader.branch.close reader.cursor.mark
  let past := reader.cursor.step
  let frames :=
    match reader.frames with
    | .alternation start branches :: rest => .alternation start (closed :: branches) :: rest
    | frames => .alternation reader.branch.start [closed] :: frames
  { reader with cursor := past, frames, branch := ⟨past.mark, []⟩ }

def finish (reader : Reader) : Except Fault Tree :=
  match reader.closeBranches with
  | (tree, []) => .ok tree
  | (_, .group _ span _ _ :: _) => .error ⟨.groupUnclosed, span, none⟩
  | (_, .alternation start _ :: _) => .error ⟨.groupUnclosed, ⟨start, start⟩, none⟩

end Reader

/-! ## Repetitions -/

/-- The last part of a branch, if it can be repeated, and the branch before it. -/
def repeatable? (branch : Branch) : Option (Tree × Branch) :=
  match branch.parts with
  | [] => none
  | .empty _ :: _ => none
  | .flags _ _ :: _ => none
  | part :: parts => some (part, { branch with parts })

def readLazy (cursor : Cursor) : Bool × Cursor :=
  match cursor.past? ['?'] with
  | some past => (true, past)
  | none => (false, cursor)

def countLimit : Nat := 4294967295

/-- Reads a number between blanks, and where it ends even if it is none. -/
def readCount (loose : Bool) (cursor : Cursor) : Except Fault Nat × Cursor :=
  let (_, first) := cursor.takeWhile false Text.isBlank
  let (digits, last) := first.takeWhile loose Char.isDigit
  let (_, past) := last.takeWhile loose Text.isBlank
  let span := last.since first.mark
  let value := digits.foldl (fun value c => 10 * value + (c.toNat - '0'.toNat)) 0
  let count :=
    if digits.isEmpty then .error ⟨.countMissing, span, none⟩
    else if countLimit < value then .error ⟨.decimalTooLarge, span, none⟩
    else .ok value
  (count, past)

def readBounds (loose : Bool) (cursor : Cursor) :
    Except Fault ((Nat × Option Nat) × Cursor) := do
  let unclosed := fun last : Cursor => Fault.mk .countUnclosed (last.since cursor.mark) none
  let inner := cursor.next loose
  if inner.isDone then .error (unclosed inner)
  else
    let (least, behind) := readCount loose inner
    match behind.rest with
    | [] => .error (unclosed behind)
    | ',' :: _ =>
        let second := behind.next loose
        match second.rest with
        | [] => .error (unclosed second)
        | '}' :: _ => return ((<- least, none), second)
        | _ =>
            let least <- least
            let (most, last) := readCount loose second
            let most <- most
            if last.rest.head? = some '}' then return ((least, some most), last)
            else .error (unclosed last)
    | _ =>
        let exact <- least
        if behind.rest.head? = some '}' then return ((exact, some exact), behind)
        else .error (unclosed behind)

namespace Reader

def repeatMarked (reader : Reader) (least : Nat) (most : Option Nat) : Except Fault Reader :=
  match repeatable? reader.branch with
  | none => .error ⟨.nothingRepeated, reader.cursor.here, none⟩
  | some (part, branch) =>
      let (isLazy, past) := readLazy reader.cursor.step
      let repetition := Tree.repetition (past.since part.span.start) part least most isLazy
      .ok { reader with branch := branch.push repetition, cursor := past }

def repeatCounted (reader : Reader) : Except Fault Reader :=
  match repeatable? reader.branch with
  | none => .error ⟨.nothingRepeated, reader.cursor.here, none⟩
  | some (part, branch) => do
      let ((least, most), brace) <- readBounds reader.loose reader.cursor
      let (isLazy, past) := readLazy (brace.next reader.loose)
      if most.any (· < least) then
        .error ⟨.countOrder, past.since reader.cursor.mark, none⟩
      else
        let repetition := Tree.repetition (past.since part.span.start) part least most isLazy
        return { reader with branch := branch.push repetition, cursor := past }

def readPart (reader : Reader) (fuel : Nat) (c : Char) : Except Fault Reader :=
  let past := reader.cursor.step
  let span := reader.cursor.charSpan
  match c with
  | '(' => reader.openGroup fuel
  | ')' => reader.closeGroup
  | '|' => .ok reader.nextBranch
  | '?' => reader.repeatMarked 0 (some 1)
  | '*' => reader.repeatMarked 0 none
  | '+' => reader.repeatMarked 1 none
  | '{' => reader.repeatCounted
  | '.' => .ok (reader.push (.dot span) past)
  | '^' => .ok (reader.push (.assertion span .lineStart) past)
  | '$' => .ok (reader.push (.assertion span .lineStop) past)
  | '[' => do
      let (part, past) <- readClass reader.loose fuel reader.cursor
      return reader.push part past
  | '\\' => do
      let (part, past) <- readEscape reader.loose reader.cursor
      return reader.push part past
  | c => .ok (reader.push (.literal ⟨span, false, c⟩) past)

/-- Reads the rest of a pattern.  Every part has a sign at least, so the fuel need not exceed the
number of signs by more than one. -/
def readRest (reader : Reader) : Nat -> Except Fault Tree
  | 0 => reader.finish
  | fuel + 1 =>
      let cursor := reader.cursor.skip reader.loose
      let reader := { reader with cursor }
      match cursor.rest with
      | [] => reader.finish
      | c :: _ => do (<- reader.readPart (fuel + 1) c).readRest fuel

end Reader

/-! ## Nesting -/

def deeper (depth : Nat) (span : Span) : Except Fault Nat :=
  if nestingLimit <= depth then .error ⟨.nesting, span, none⟩ else .ok (depth + 1)

mutual

def Members.checkDepth (depth : Nat) : Members -> Except Fault Unit
  | .bracket span _ members => do members.checkDepth (<- deeper depth span)
  | .union span parts => do Members.checkDepths (<- deeper depth span) parts
  | .combine span _ first second => do
      let depth <- deeper depth span
      first.checkDepth depth
      second.checkDepth depth
  | .empty _ | .literal _ | .range _ _ _ | .named _ _ _ | .shorthand _ _ _ | .property _ _ =>
      .ok ()

def Members.checkDepths (depth : Nat) : List Members -> Except Fault Unit
  | [] => .ok ()
  | part :: rest => do
      part.checkDepth depth
      Members.checkDepths depth rest

end

mutual

def Tree.checkDepth (depth : Nat) : Tree -> Except Fault Unit
  | .bracket span _ members => do members.checkDepth (<- deeper depth span)
  | .repetition span body _ _ _ => do body.checkDepth (<- deeper depth span)
  | .group span _ body => do body.checkDepth (<- deeper depth span)
  | .alternation span branches => do Tree.checkDepths (<- deeper depth span) branches
  | .sequence span parts => do Tree.checkDepths (<- deeper depth span) parts
  | .empty _ | .flags _ _ | .literal _ | .dot _ | .assertion _ _ | .shorthand _ _ _
  | .property _ _ => .ok ()

def Tree.checkDepths (depth : Nat) : List Tree -> Except Fault Unit
  | [] => .ok ()
  | part :: rest => do
      part.checkDepth depth
      Tree.checkDepths depth rest

end

def Tree.ofText (text : String) : Except Fault Tree := do
  let signs := text.toList
  let reader : Reader := { cursor := ⟨{}, signs⟩, branch := ⟨{}, []⟩ }
  let tree <- reader.readRest (signs.length + 1)
  tree.checkDepth 0
  return tree

end DisplayInventory.Pattern
