import DisplayInventory.Pattern.CharSet
import DisplayInventory.Pattern.Tree

/-!
# Expressions

What a pattern says of a text, with all flags settled.  An expression passes over a piece of text:
nothing at all, one character, two pieces in a row, either of two, or one repeated.  Some pass over
nothing but ask for a condition at a place.

The two parameters are what an expression asks of a character and of a place; they are classes and
conditions as long as no text is given.
-/

namespace DisplayInventory.Pattern

inductive Condition where
  | textStart
  | textStop
  | lineStart
  | lineStop
  /-- A line begins, where a carriage return ends one too. -/
  | returnStart
  /-- A line ends, where a carriage return ends one too. -/
  | returnStop
  /-- An edge of a word of ASCII characters. -/
  | edge (edge : Edge)
  deriving DecidableEq

inductive Expression (σ π : Type) where
  | empty
  | char (test : σ)
  | place (test : π)
  /-- An edge of a word of any characters, for which nothing is known of the words. -/
  | wideEdge (edge : Edge)
  /-- A piece that is kept under a number. -/
  | group (number : Nat) (body : Expression σ π)
  | sequence (first second : Expression σ π)
  | either (first second : Expression σ π)
  | repetition (body : Expression σ π) (least : Nat) (most : Option Nat) (isLazy : Bool)
  deriving DecidableEq

namespace Expression

variable {σ π : Type}

def ofParts : List (Expression σ π) -> Expression σ π
  | [] => .empty
  | [part] => part
  | part :: rest => .sequence part (ofParts rest)

/-- The parts of a sequence; any other expression is its own only part, unless it is empty. -/
def parts : Expression σ π -> List (Expression σ π)
  | .empty => []
  | .sequence first second => first.parts ++ second.parts
  | part => [part]

def ofBranches : List (Expression σ π) -> Expression σ π
  | [] => .empty
  | [branch] => branch
  | branch :: rest => .either branch (ofBranches rest)

def branches : Expression σ π -> List (Expression σ π)
  | .either first second => first.branches ++ second.branches
  | branch => [branch]

/-- Whether an expression asks for the edges of words of any characters. -/
def hasWideEdge : Expression σ π -> Bool
  | .empty | .char _ | .place _ => false
  | .wideEdge _ => true
  | .group _ body => body.hasWideEdge
  | .sequence first second | .either first second => first.hasWideEdge || second.hasWideEdge
  | .repetition body _ _ _ => body.hasWideEdge

/-- Whether an expression passes over nothing, whatever the text is. -/
def isHollow : Expression σ π -> Bool
  | .empty | .place _ | .wideEdge _ => true
  | .char _ => false
  | .group _ body => body.isHollow
  | .sequence first second | .either first second => first.isHollow && second.isHollow
  | .repetition body _ _ _ => body.isHollow

def map {σ' π' : Type} (ofChar : σ -> σ') (ofPlace : π -> π') :
    Expression σ π -> Expression σ' π'
  | .empty => .empty
  | .char test => .char (ofChar test)
  | .place test => .place (ofPlace test)
  | .wideEdge edge => .wideEdge edge
  | .group number body => .group number (body.map ofChar ofPlace)
  | .sequence first second => .sequence (first.map ofChar ofPlace) (second.map ofChar ofPlace)
  | .either first second => .either (first.map ofChar ofPlace) (second.map ofChar ofPlace)
  | .repetition body least most isLazy =>
      .repetition (body.map ofChar ofPlace) least most isLazy

end Expression

end DisplayInventory.Pattern
