import DisplayInventory.Pattern.Expression

/-!
# Simplest forms

An expression is composed of others in the simplest way that says the same: sequences and
alternations do not lie in each other, what passes over nothing is not repeated, characters side by
side make up a class, and what all branches of an alternation begin with stands in front of it.
The weight of a pattern is that of its simplest form.
-/

namespace DisplayInventory.Pattern

structure CharClass where
  set : CharSet
  /-- Whether it was asked for where characters beyond ASCII count. -/
  isWide : Bool
  deriving DecidableEq

/-- An expression that is not yet applied to a text. -/
abbrev Meaning := Expression CharClass Condition

def CharClass.isSingle (charClass : CharClass) : Bool :=
  match charClass.set.ranges with
  | [(first, last)] => first == last
  | _ => false

namespace Meaning

/-- The expression of a class.  Where a class has no character, or just one, it does not matter how
it was asked for. -/
def ofClass (charClass : CharClass) : Meaning :=
  if charClass.set.isEmpty then .char ⟨.none, false⟩
  else if charClass.isSingle then .char ⟨charClass.set, true⟩
  else .char charClass

def ofChar (c : Char) : Meaning :=
  .char ⟨.single c, true⟩

def isLiteral : Meaning -> Bool
  | .char charClass => charClass.isSingle
  | _ => false

def class? : Meaning -> Option CharClass
  | .char charClass => some charClass
  | _ => none

def inSequence (parts : List Meaning) : Meaning :=
  .ofParts (parts.flatMap Expression.parts)

/-- Parts in a row, with characters that follow each other taken together. -/
def words : List Meaning -> List (List Meaning)
  | [] => []
  | part :: rest =>
      match words rest with
      | (next :: more) :: others =>
          if isLiteral part && isLiteral next then (part :: next :: more) :: others
          else [part] :: (next :: more) :: others
      | others => [part] :: others

def commonStart : List (List Meaning) -> List (List Meaning) -> List (List Meaning)
  | first :: rest, other :: others =>
      if first = other then first :: commonStart rest others else []
  | _, _ => []

/-- What all branches begin with, if each of them has several words; none otherwise. -/
def sharedStart (branches : List (List (List Meaning))) : List (List Meaning) :=
  if branches.all fun words => 2 <= words.length then
    match branches with
    | [] => []
    | first :: rest => rest.foldl commonStart first
  else []

def joinedClass? (branches : List Meaning) : Option CharClass := do
  let classes <- branches.mapM class?
  if classes.all CharClass.isSingle || classes.all fun charClass => !charClass.isSingle then
    some ⟨.ofRanges (classes.flatMap fun charClass => charClass.set.ranges), true⟩
  else none

/-- One of several expressions.  Every round takes a part off each branch, so the fuel need not
exceed the number of parts of one. -/
def oneOfWithin : Nat -> List Meaning -> Meaning
  | fuel, branches =>
      let branches := branches.flatMap Expression.branches
      match branches, joinedClass? branches, fuel with
      | [branch], _, _ => branch
      | _, some charClass, _ => ofClass charClass
      | _, none, 0 => .ofBranches branches
      | _, none, fuel + 1 =>
          let written := branches.map fun branch => words branch.parts
          let shared := sharedStart written
          if shared.isEmpty then .ofBranches branches
          else
            let rests := written.map fun words => inSequence (words.drop shared.length).flatten
            inSequence (shared.flatten ++ [oneOfWithin fuel rests])

def oneOf (branches : List Meaning) : Meaning :=
  oneOfWithin ((branches.head?.map fun branch => branch.parts.length).getD 0) branches

/-- A repetition.  What passes over nothing need not be repeated more than once, and what is taken
exactly once or never is no repetition. -/
def repeated (body : Meaning) (least : Nat) (most : Option Nat) (isLazy : Bool) : Meaning :=
  let (least, most) :=
    if body.isHollow then (min least 1, some ((most.getD 1).min 1)) else (least, most)
  if most = some 0 then .empty
  else if least = 1 ∧ most = some 1 then body
  else .repetition body least most isLazy

end Meaning

end DisplayInventory.Pattern
