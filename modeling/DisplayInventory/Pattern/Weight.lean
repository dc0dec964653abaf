import DisplayInventory.Pattern.ByteRanges
import DisplayInventory.Pattern.Meaning
import DisplayInventory.Text.Utf8
import Std.Data.HashSet

/-!
# The weight of a pattern

The weight of an expression is the memory in bytes of the machine that would look for it.  The
machine reads bytes: it has states that read one byte out of some ranges, states that ask for a
condition, and states with several ways out.  A repetition with bounds weighs as much as its body
written out, so short patterns can be heavy.

There are two machines for an expression: one reads forward and keeps the pieces of groups, the
other reads backward to find where a piece begins.
-/

namespace DisplayInventory.Pattern

def weightLimit : Nat := 10485760

def stateWeight : Nat := 32

/-- The weight of a range of bytes with a way out of its own. -/
def rangeWeight : Nat := 8

/-- The weight of a way out of a state that has several. -/
def exitWeight : Nat := 4

def totalWeight (weights : List Nat) : Nat :=
  weights.foldl (· + ·) 0

inductive Direction where
  | forward
  | backward
  deriving DecidableEq

def Direction.outset : Direction -> Condition
  | .forward => .textStart
  | .backward => .textStop

/-! ## Characters -/

/-- The weight of the states for a set beyond ASCII.  Forward, states that can be left in the same
ways are one; backward, the rows share what they begin with. -/
def CharSet.wideWeight (direction : Direction) (set : CharSet) : Nat :=
  match direction with
  | .forward =>
      let states := Std.HashSet.ofList (remainders 4 set.rows)
      stateWeight +
        totalWeight
          (states.toList.map fun rows => stateWeight + rangeWeight * (byLead rows).length)
  | .backward =>
      let rows := set.rows
      2 * stateWeight + stateWeight * beginnings [] rows + exitWeight * rows.length

def CharClass.weight (direction : Direction) (charClass : CharClass) : Nat :=
  match charClass.set.ranges with
  | [(first, last)] =>
      if first = last then stateWeight * (Char.ofNat first).utf8Size
      else if last < 0x80 then 2 * stateWeight + rangeWeight
      else charClass.set.wideWeight direction
  | ranges =>
      if ranges.all (·.2 < 0x80) then 2 * stateWeight + rangeWeight * ranges.length
      else charClass.set.wideWeight direction

/-! ## Alternations of words -/

/-- Words in order, cut at those that are empty.  A word that is empty cuts once unless nothing but
empty words comes before it. -/
def cutAtEmpty : List (List UInt8) -> List (List (List UInt8))
  | [] => [[]]
  | [] :: rest => [] :: cutAtEmpty rest
  | word :: rest =>
      match cutAtEmpty rest with
      | [] => [[word]]
      | chunk :: others => (word :: chunk) :: others

/-- The words of a chunk by their first bytes: what comes behind it in each of them. -/
def byFirst (words : List (List UInt8)) : List (List (List UInt8)) :=
  let firsts := (words.filterMap List.head?).eraseDups
  firsts.map fun byte => words.filterMap fun word =>
    if word.head? = some byte then some word.tail else none

def choiceWeight : Nat -> Nat
  | 0 => 0
  | 1 => stateWeight
  | count => stateWeight + rangeWeight * count

/-- The weight of the states for words, the shortest of which may be empty.  Words share what they
begin with as far as no word ends between them. -/
def wordsWeight : Nat -> List (List UInt8) -> Nat
  | 0, _ => 0
  | fuel + 1, words =>
      let chunks :=
        match cutAtEmpty words with
        | [] :: rest => [] :: rest.dropWhile List.isEmpty
        | chunks => chunks
      let groups := chunks.map byFirst
      let exits := (groups.filter fun group => !group.isEmpty).length + (chunks.length - 1)
      stateWeight + exitWeight * exits +
        totalWeight (groups.map fun group => choiceWeight group.length) +
        totalWeight (groups.flatten.map fun rests =>
          if rests.all List.isEmpty then 0 else wordsWeight fuel rests)

def wordOf? (branch : Meaning) : Option (List UInt8) := do
  let parts := branch.parts
  if parts.isEmpty then none
  else
    let chars <- parts.mapM fun part =>
      match part with
      | .char charClass => if charClass.isSingle then charClass.set.ranges.head? else none
      | _ => none
    return chars.flatMap fun range => Text.Utf8.encode (String.singleton (Char.ofNat range.1))

def wordsOf? (direction : Direction) (branches : List Meaning) : Option (List (List UInt8)) := do
  let words <- branches.mapM wordOf?
  match direction with
  | .forward => return words
  | .backward => return words.map List.reverse

def alternationWeight (words : List (List UInt8)) : Nat :=
  stateWeight + wordsWeight ((words.map List.length).foldl max 0 + 1) words

/-! ## Expressions -/

namespace Meaning

def leastLength? : Meaning -> Option Nat
  | .empty | .place _ | .wideEdge _ => some 0
  | .char charClass => if charClass.set.isEmpty then none else some 1
  | .group _ body => leastLength? body
  | .sequence first second => do return (<- leastLength? first) + (<- leastLength? second)
  | .either first second => do return min (<- leastLength? first) (<- leastLength? second)
  | .repetition body least _ _ => (leastLength? body).map (· * least)

/-- Whether an expression passes over text only from where a machine begins on, and whether it
passes over nothing. -/
def opening (direction : Direction) : Meaning -> Bool × Bool
  | .empty | .wideEdge _ => (false, true)
  | .char _ => (false, false)
  | .place condition => (condition == direction.outset, true)
  | .group _ body => opening direction body
  | .sequence first second =>
      let first := opening direction first
      let second := opening direction second
      let (near, far) := match direction with
        | .forward => (first, second)
        | .backward => (second, first)
      (near.1 || (near.2 && far.1), near.2 && far.2)
  | .either first second =>
      let first := opening direction first
      let second := opening direction second
      (first.1 && second.1, first.2 && second.2)
  | .repetition body least _ _ =>
      let body := opening direction body
      (0 < least && body.1, body.2)

def repetitionWeight (body : Nat) (isSolid : Bool) (least : Nat) (most : Option Nat) : Nat :=
  match most with
  | none =>
      if least = 0 ∧ !isSolid then body + 3 * stateWeight + 4 * exitWeight
      else max 1 least * body + stateWeight + 2 * exitWeight
  | some most =>
      let option := body + stateWeight + 2 * exitWeight
      if least = most then least * body
      else if least = 0 ∧ most = 1 then option + stateWeight
      else max stateWeight (least * body) + stateWeight + (most - least) * option

/-- The weight of the states for an expression; `within` tells whether it is the rest of the
branches of an alternation. -/
def statesWeight (direction : Direction) (within : Bool) : Meaning -> Nat
  | .empty | .place _ | .wideEdge _ => stateWeight
  | .char charClass => charClass.weight direction
  | .group _ body =>
      match direction with
      | .forward => 2 * stateWeight + statesWeight direction false body
      | .backward => statesWeight direction false body
  | .sequence first second =>
      statesWeight direction false first + statesWeight direction false second
  | .repetition body least most _ =>
      let solid := (leastLength? body).any (0 < ·)
      repetitionWeight (statesWeight direction false body) solid least most
  | .either first second =>
      let words := if within then none else wordsOf? direction (first.branches ++ second.branches)
      match words with
      | some words => alternationWeight words
      | none =>
          let last := match second with
            | .either _ _ => 0
            | _ => exitWeight
          let joint := if within then 0 else 2 * stateWeight
          statesWeight direction false first + exitWeight +
            statesWeight direction true second + last + joint

/-- The weight of the machine for an expression.  Unless the expression is bound to the place where
the machine begins, it may pass over any bytes first. -/
def weight (direction : Direction) (meaning : Meaning) : Nat :=
  let start :=
    if (opening direction meaning).1 then stateWeight
    else 3 * stateWeight + rangeWeight + 2 * exitWeight
  let kept := match direction with
    | .forward => 2 * stateWeight
    | .backward => 0
  start + kept + statesWeight direction false meaning + stateWeight

end Meaning

end DisplayInventory.Pattern
