import DisplayInventory.Pattern.Cursor
import DisplayInventory.Text.Layout

/-!
# Faults of a written pattern

A fault has a cause and the piece of the pattern where it lies; some also point to an earlier piece.
Its description repeats the pattern with the pieces underlined.  A pattern of several lines has
them numbered.
-/

namespace DisplayInventory.Pattern

inductive Cause where
  | classEscape
  | classRangeOrder
  | classRangeBoundary
  | classUnclosed
  | decimalTooLarge
  | hexEmpty
  | hexNotCharacter
  | hexDigit
  | escapeUnfinished
  | escapeUnknown
  | flagDangling
  | flagRepeated
  | flagNegationRepeated
  | flagsUnfinished
  | flagUnknown
  | nameRepeated
  | nameEmpty
  | nameCharacter
  | nameUnclosed
  | groupUnclosed
  | groupUnopened
  | nesting
  | countOrder
  | countMissing
  | countUnclosed
  | nothingRepeated
  | edgeUnclosed
  | edgeUnknown
  | edgeUnfinished
  | propertyLetter
  | backreference
  | lookAround
  | notAscii
  | notText
  | propertyUnknown
  | propertyValueUnknown
  | shorthandUnavailable
  | casesUnavailable
  deriving DecidableEq

def nestingLimit : Nat := 250

def Cause.message : Cause -> String
  | .classEscape => "invalid escape sequence found in character class"
  | .classRangeOrder => "invalid character class range, the start must be <= the end"
  | .classRangeBoundary => "invalid range boundary, must be a literal"
  | .classUnclosed => "unclosed character class"
  | .decimalTooLarge => "decimal literal invalid"
  | .hexEmpty => "hexadecimal literal empty"
  | .hexNotCharacter => "hexadecimal literal is not a Unicode scalar value"
  | .hexDigit => "invalid hexadecimal digit"
  | .escapeUnfinished => "incomplete escape sequence, reached end of pattern prematurely"
  | .escapeUnknown => "unrecognized escape sequence"
  | .flagDangling => "dangling flag negation operator"
  | .flagRepeated => "duplicate flag"
  | .flagNegationRepeated => "flag negation operator repeated"
  | .flagsUnfinished => "expected flag but got end of regex"
  | .flagUnknown => "unrecognized flag"
  | .nameRepeated => "duplicate capture group name"
  | .nameEmpty => "empty capture group name"
  | .nameCharacter => "invalid capture group character"
  | .nameUnclosed => "unclosed capture group name"
  | .groupUnclosed => "unclosed group"
  | .groupUnopened => "unopened group"
  | .nesting =>
      "exceed the maximum number of nested parentheses/brackets (" ++
        Text.decimal nestingLimit ++ ")"
  | .countOrder => "invalid repetition count range, the start must be <= the end"
  | .countMissing => "repetition quantifier expects a valid decimal"
  | .countUnclosed => "unclosed counted repetition"
  | .nothingRepeated => "repetition operator missing expression"
  | .edgeUnclosed =>
      "special word boundary assertion is either unclosed or contains an invalid character"
  | .edgeUnknown =>
      "unrecognized special word boundary assertion, " ++
        "valid choices are: start, end, start-half or end-half"
  | .edgeUnfinished =>
      "found either the beginning of a special word boundary or a bounded repetition " ++
        "on a \\b with an opening brace, but no closing brace"
  | .propertyLetter => "invalid Unicode character class"
  | .backreference => "backreferences are not supported"
  | .lookAround => "look-around, including look-ahead and look-behind, is not supported"
  | .notAscii => "Unicode not allowed here"
  | .notText => "pattern can match invalid UTF-8"
  | .propertyUnknown => "Unicode property not found"
  | .propertyValueUnknown => "Unicode property value not found"
  | .shorthandUnavailable =>
      "Unicode-aware Perl class not found (make sure the unicode-perl feature is enabled)"
  | .casesUnavailable =>
      "Unicode-aware case insensitivity matching is not available " ++
        "(make sure the unicode-case feature is enabled)"

/-- A fault of a written pattern. -/
structure Fault where
  cause : Cause
  span : Span
  /-- The earlier piece with which the faulty one is at odds. -/
  earlier : Option Span := none
  deriving DecidableEq

namespace Fault

def spans (fault : Fault) : List Span :=
  match fault.earlier with
  | none => [fault.span]
  | some earlier =>
      if earlier.start.offset <= fault.span.start.offset then [earlier, fault.span]
      else [fault.span, earlier]

/-- The lines of a text, the last of which is left out if it is empty; a carriage return before the
end of a line belongs to the end. -/
def linesFrom (line : List Char) : List Char -> List (List Char)
  | [] => if line.isEmpty then [] else [line.reverse]
  | '\n' :: rest =>
      match line with
      | '\r' :: before => before.reverse :: linesFrom [] rest
      | _ => line.reverse :: linesFrom [] rest
  | c :: rest => linesFrom (c :: line) rest

def lines (text : String) : List String :=
  (linesFrom [] text.toList).map String.ofList

def row (count : Nat) (c : Char) : String :=
  String.ofList (List.replicate count c)

/-- The line of carets below a line of the pattern, of which `column` columns are written. -/
def underline (column : Nat) : List Span -> String
  | [] => ""
  | span :: rest =>
      let gap := span.start.column - 1 - column
      let width := max 1 (span.stop.column - span.start.column)
      row gap ' ' ++ row width '^' ++ underline (column + gap + width) rest

/-- Width of the line numbers; a pattern of one line has none. -/
def numberWidth (pattern : String) : Nat :=
  let count := (lines pattern).length + (if pattern.endsWith "\n" then 1 else 0)
  if count <= 1 then 0 else (Text.decimal count).length

def underlined (width number : Nat) (line : String) (spans : List Span) : List String :=
  let margin :=
    if width = 0 then row 4 ' '
    else
      let digits := Text.decimal number
      row (width - digits.length) ' ' ++ digits ++ ": "
  let found := spans.filter fun span => span.start.line == number && span.stop.line == number
  if found.isEmpty then [margin ++ line]
  else [margin ++ line, row margin.length ' ' ++ underline 0 found]

def underlinedLines (width : Nat) (spans : List Span) : Nat -> List String -> List String
  | _, [] => []
  | number, line :: rest =>
      underlined width number line spans ++ underlinedLines width spans (number + 1) rest

def extent (span : Span) : String :=
  "on line " ++ Text.decimal span.start.line ++ " (column " ++ Text.decimal span.start.column ++
    ") through line " ++ Text.decimal span.stop.line ++ " (column " ++
    Text.decimal (span.stop.column - 1) ++ ")"

def message (pattern : String) (fault : Fault) : String :=
  let shown := underlinedLines (numberWidth pattern) fault.spans 1 (lines pattern)
  let framed :=
    if pattern.toList.contains '\n' then
      let divider := row 79 '~'
      let extents := (fault.spans.filter fun span => span.start.line != span.stop.line).map extent
      [divider] ++ shown ++ [divider] ++ extents
    else shown
  "regex parse error:\n" ++ Text.unlines framed ++ "error: " ++ fault.cause.message

end Fault

end DisplayInventory.Pattern
