import DisplayInventory.Pattern.Cursor

/-!
# Written patterns

A pattern as it is written: every part keeps the piece of text that it was read from.  What a part
stands for depends on the flags in force around it and is settled only when it is interpreted.
-/

namespace DisplayInventory.Pattern

inductive Flag where
  /-- Letters stand for both of their cases. -/
  | caseless
  /-- The ends of the text become the ends of its lines. -/
  | multiline
  /-- A dot stands for a newline too. -/
  | dotAll
  /-- Repetitions prefer to be short, and those marked lazy to be long. -/
  | swapGreed
  /-- Characters beyond ASCII count. -/
  | wide
  /-- A carriage return ends a line too. -/
  | carriageReturn
  /-- The pattern is written loosely. -/
  | loose
  deriving DecidableEq

inductive FlagSign where
  /-- The flags behind it are switched off. -/
  | negation
  | flag (flag : Flag)
  deriving DecidableEq

/-- A change of flags. -/
abbrev FlagChange := List FlagSign

/-- What a change says of a flag, when `on` is what it does to the flags at its beginning. -/
def FlagChange.settingFrom (flag : Flag) (on : Bool) : FlagChange -> Option Bool
  | [] => none
  | .negation :: rest => settingFrom flag false rest
  | .flag other :: rest => if other = flag then some on else settingFrom flag on rest

def FlagChange.setting? (change : FlagChange) (flag : Flag) : Option Bool :=
  change.settingFrom flag true

inductive Shorthand where
  | digit
  | space
  | word
  deriving DecidableEq

inductive AsciiClass where
  | alnum
  | alpha
  | ascii
  | blank
  | cntrl
  | digit
  | graph
  | lower
  | print
  | punct
  | space
  | upper
  | word
  | xdigit
  deriving DecidableEq

/-- How the characters on both sides of a place differ. -/
inductive Edge where
  /-- A word begins or ends. -/
  | either
  /-- No word begins or ends. -/
  | neither
  /-- A word begins. -/
  | start
  /-- A word ends. -/
  | stop
  /-- No word lies before. -/
  | startHalf
  /-- No word lies behind. -/
  | stopHalf
  deriving DecidableEq

inductive Assertion where
  | lineStart
  | lineStop
  | textStart
  | textStop
  | edge (edge : Edge)
  deriving DecidableEq

structure Literal where
  span : Span
  /-- Whether it is written by two hexadecimal digits. -/
  isByte : Bool
  char : Char
  deriving DecidableEq

inductive ClassOperation where
  | intersection
  | difference
  | symmetricDifference
  deriving DecidableEq

/-- What stands between the brackets of a class. -/
inductive Members where
  | empty (span : Span)
  | literal (sign : Literal)
  | range (span : Span) (first last : Literal)
  | named (span : Span) (name : AsciiClass) (negated : Bool)
  | shorthand (span : Span) (kind : Shorthand) (negated : Bool)
  | property (span : Span) (name : List Char)
  | bracket (span : Span) (negated : Bool) (members : Members)
  | union (span : Span) (parts : List Members)
  | combine (span : Span) (operation : ClassOperation) (first second : Members)

def Members.span : Members -> Span
  | .empty span => span
  | .literal sign => sign.span
  | .range span _ _ => span
  | .named span _ _ => span
  | .shorthand span _ _ => span
  | .property span _ => span
  | .bracket span _ _ => span
  | .union span _ => span
  | .combine span _ _ _ => span

/-- What the parentheses around a part do besides. -/
inductive GroupKind where
  /-- They keep what the part passes over, under a number. -/
  | kept (number : Nat)
  /-- They change the flags within. -/
  | plain (change : FlagChange)
  deriving DecidableEq

def GroupKind.change : GroupKind -> FlagChange
  | .kept _ => []
  | .plain change => change

/-- A written pattern. -/
inductive Tree where
  | empty (span : Span)
  | flags (span : Span) (change : FlagChange)
  | literal (sign : Literal)
  | dot (span : Span)
  | assertion (span : Span) (assertion : Assertion)
  | shorthand (span : Span) (kind : Shorthand) (negated : Bool)
  | property (span : Span) (name : List Char)
  | bracket (span : Span) (negated : Bool) (members : Members)
  | repetition (span : Span) (body : Tree) (least : Nat) (most : Option Nat) (isLazy : Bool)
  | group (span : Span) (kind : GroupKind) (body : Tree)
  | alternation (span : Span) (branches : List Tree)
  | sequence (span : Span) (parts : List Tree)

def Tree.span : Tree -> Span
  | .empty span => span
  | .flags span _ => span
  | .literal sign => sign.span
  | .dot span => span
  | .assertion span _ => span
  | .shorthand span _ _ => span
  | .property span _ => span
  | .bracket span _ _ => span
  | .repetition span _ _ _ _ => span
  | .group span _ _ => span
  | .alternation span _ => span
  | .sequence span _ => span

def Tree.ofParts (span : Span) : List Tree -> Tree
  | [] => .empty span
  | [part] => part
  | parts => .sequence span parts

def Members.ofParts (span : Span) : List Members -> Members
  | [] => .empty span
  | [part] => part
  | parts => .union span parts

end DisplayInventory.Pattern
