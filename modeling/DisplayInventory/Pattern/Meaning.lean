import DisplayInventory.Pattern.CaseSet
import DisplayInventory.Pattern.Fault
import DisplayInventory.Pattern.Simplest

/-!
# The meaning of a pattern

A written pattern becomes an expression when the flags in force around each of its parts are known.
A part can be well written and still have no meaning: there are no tables of the properties, words
and cases of characters beyond ASCII, and where only ASCII counts no other character may be asked
for.
-/

namespace DisplayInventory.Pattern

structure Flags where
  caseless : Bool := false
  multiline : Bool := false
  dotAll : Bool := false
  swapGreed : Bool := false
  carriageReturn : Bool := false
  wide : Bool := true
  deriving DecidableEq

def Flags.change (flags : Flags) (change : FlagChange) : Flags where
  caseless := (change.setting? .caseless).getD flags.caseless
  multiline := (change.setting? .multiline).getD flags.multiline
  dotAll := (change.setting? .dotAll).getD flags.dotAll
  swapGreed := (change.setting? .swapGreed).getD flags.swapGreed
  carriageReturn := (change.setting? .carriageReturn).getD flags.carriageReturn
  wide := (change.setting? .wide).getD flags.wide

/-! ## Classes -/

def AsciiClass.set : AsciiClass -> CharSet
  | .alnum => .ofRanges [(0x30, 0x39), (0x41, 0x5A), (0x61, 0x7A)]
  | .alpha => .ofRanges [(0x41, 0x5A), (0x61, 0x7A)]
  | .ascii => .ofRanges [(0, 0x7F)]
  | .blank => .ofRanges [(0x09, 0x09), (0x20, 0x20)]
  | .cntrl => .ofRanges [(0, 0x1F), (0x7F, 0x7F)]
  | .digit => .ofRanges [(0x30, 0x39)]
  | .graph => .ofRanges [(0x21, 0x7E)]
  | .lower => .ofRanges [(0x61, 0x7A)]
  | .print => .ofRanges [(0x20, 0x7E)]
  | .punct => .ofRanges [(0x21, 0x2F), (0x3A, 0x40), (0x5B, 0x60), (0x7B, 0x7E)]
  | .space => .ofRanges [(0x09, 0x0D), (0x20, 0x20)]
  | .upper => .ofRanges [(0x41, 0x5A)]
  | .word => .ofRanges [(0x30, 0x39), (0x41, 0x5A), (0x5F, 0x5F), (0x61, 0x7A)]
  | .xdigit => .ofRanges [(0x30, 0x39), (0x41, 0x46), (0x61, 0x66)]

def Shorthand.set : Shorthand -> CharSet
  | .digit => AsciiClass.digit.set
  | .space => AsciiClass.space.set
  | .word => AsciiClass.word.set

/-- The name of a property without an `is` before it, without case, spaces, underscores and hyphens;
only ASCII characters count. -/
def plainName (name : List Char) : List Char :=
  let named :=
    match name.map Char.toLower with
    | 'i' :: 's' :: rest => rest
    | chars => chars
  named.filter fun c => c.toNat < 0x80 && c != ' ' && c != '_' && c != '-'

/-- Why a property has no meaning.  Three names are taken for values of the general category, all
others for properties. -/
def propertyCause (name : List Char) : Cause :=
  if plainName name ∈ [['c', 'f'], ['s', 'c'], ['l', 'c']] then .propertyValueUnknown
  else .propertyUnknown

def propertyFault (flags : Flags) (span : Span) (name : List Char) : Fault :=
  ⟨if flags.wide then propertyCause name else .notAscii, span, none⟩

def foldCases (flags : Flags) (span : Span) (set : CaseSet) : Except Fault CaseSet :=
  if !flags.caseless then .ok set
  else if flags.wide && set.needsCases then .error ⟨.casesUnavailable, span, none⟩
  else .ok set.withBothCases

def negateIf (flags : Flags) (span : Span) (negated : Bool) (set : CaseSet) :
    Except Fault CaseSet :=
  if !negated then .ok set
  else if flags.wide then .ok set.complement
  else .error ⟨.notText, span, none⟩

def Shorthand.meaning (flags : Flags) (span : Span) (negated : Bool) (kind : Shorthand) :
    Except Fault CaseSet :=
  if flags.wide then .error ⟨.shorthandUnavailable, span, none⟩
  else negateIf flags span negated (.ofSet kind.set)

def Literal.meaning (flags : Flags) (sign : Literal) : Except Fault Char :=
  if !flags.wide && sign.isByte && 0x80 <= sign.char.toNat then
    .error ⟨.notText, sign.span, none⟩
  else .ok sign.char

def Literal.memberMeaning (flags : Flags) (sign : Literal) : Except Fault Char := do
  let c <- sign.meaning flags
  if flags.wide || c.toNat < 0x80 then return c
  else .error ⟨.notAscii, sign.span, none⟩

def ClassOperation.apply : ClassOperation -> CaseSet -> CaseSet -> CaseSet
  | .intersection => CaseSet.intersection
  | .difference => CaseSet.difference
  | .symmetricDifference => CaseSet.symmetricDifference

mutual

def Members.addTo (flags : Flags) (set : GrowingSet) : Members -> Except Fault GrowingSet
  | .empty _ => .ok set
  | .literal sign => do
      let c <- sign.memberMeaning flags
      return set.add c c
  | .range _ first last => do
      return set.add (<- first.memberMeaning flags) (<- last.memberMeaning flags)
  | .named span name negated => do
      let named <- negateIf flags span negated (<- foldCases flags span (.ofSet name.set))
      return set.union named
  | .shorthand span kind negated => do return set.union (<- kind.meaning flags span negated)
  | .property span name => .error (propertyFault flags span name)
  | .bracket span negated members => do
      let inner <- foldCases flags span (<- members.addTo flags {}).grown
      return set.union (<- negateIf flags span negated inner)
  | .union _ parts => Members.addAll flags set parts
  | .combine _ operation first second => do
      let left <- first.addTo flags {}
      let right <- second.addTo flags {}
      let right <- foldCases flags second.span right.grown
      let left <- foldCases flags first.span left.grown
      return set.union (operation.apply left right)

def Members.addAll (flags : Flags) (set : GrowingSet) :
    List Members -> Except Fault GrowingSet
  | [] => .ok set
  | part :: rest => do Members.addAll flags (<- part.addTo flags set) rest

end

/-! ## Patterns -/

def Literal.expression (flags : Flags) (sign : Literal) : Except Fault Meaning := do
  let c <- sign.meaning flags
  if flags.caseless && flags.wide then .error ⟨.casesUnavailable, sign.span, none⟩
  else if flags.caseless then return .ofClass ⟨(CharSet.single c).withBothCases, false⟩
  else return .ofChar c

def dotExpression (flags : Flags) (span : Span) : Except Fault Meaning :=
  let ends :=
    if flags.dotAll then CharSet.none
    else if flags.carriageReturn then .ofRanges [(0x0A, 0x0A), (0x0D, 0x0D)]
    else .single '\n'
  if flags.wide then .ok (.ofClass ⟨ends.complement, true⟩)
  else .error ⟨.notText, span, none⟩

def Assertion.expression (flags : Flags) : Assertion -> Meaning
  | .textStart => .place .textStart
  | .textStop => .place .textStop
  | .lineStart =>
      if !flags.multiline then .place .textStart
      else if flags.carriageReturn then .place .returnStart
      else .place .lineStart
  | .lineStop =>
      if !flags.multiline then .place .textStop
      else if flags.carriageReturn then .place .returnStop
      else .place .lineStop
  | .edge kind => if flags.wide then .wideEdge kind else .place (.edge kind)

mutual

/-- The expression of a pattern, and the flags in force behind it. -/
def Tree.meaning (flags : Flags) : Tree -> Except Fault (Meaning × Flags)
  | .empty _ => .ok (.empty, flags)
  | .flags _ change => .ok (.empty, flags.change change)
  | .literal sign => do return (<- sign.expression flags, flags)
  | .dot span => do return (<- dotExpression flags span, flags)
  | .assertion _ asked => .ok (asked.expression flags, flags)
  | .shorthand span kind negated => do
      return (.ofClass ⟨(<- kind.meaning flags span negated).set, flags.wide⟩, flags)
  | .property span name => .error (propertyFault flags span name)
  | .bracket span negated members => do
      let set <- (Members.bracket span negated members).addTo flags {}
      return (.ofClass ⟨set.grown.set, flags.wide⟩, flags)
  | .repetition _ body least most isLazy => do
      let (body, flags) <- body.meaning flags
      return (.repeated body least most (isLazy != flags.swapGreed), flags)
  | .group _ kind body => do
      let (body, _) <- body.meaning (flags.change kind.change)
      match kind with
      | .kept number => return (.group number body, flags)
      | .plain _ => return (body, flags)
  | .alternation _ branches => do
      let (branches, flags) <- Tree.meanings flags branches
      return (.oneOf branches, flags)
  | .sequence _ parts => do
      let (parts, flags) <- Tree.meanings flags parts
      return (.inSequence parts, flags)

def Tree.meanings (flags : Flags) : List Tree -> Except Fault (List Meaning × Flags)
  | [] => .ok ([], flags)
  | part :: rest => do
      let (first, flags) <- part.meaning flags
      let (others, flags) <- Tree.meanings flags rest
      return (first :: others, flags)

end

end DisplayInventory.Pattern
