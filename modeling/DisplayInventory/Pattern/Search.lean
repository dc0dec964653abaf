import DisplayInventory.Pattern.Simplest

/-!
# Searching a text

The places of a text are the gaps before, between and behind its characters.  A set of places is a
number whose bits tell which of them it has.  From a set of places an expression leads to the set of
places that it can end at, and it occurs in the text when the set for all places is not empty.

Repetitions without end are walked in rounds, and repetitions lie in each other.  Each of them keeps
the places that it was entered from, so that none is entered twice from the same place.
-/

namespace DisplayInventory.Pattern

/-- A set of places, as the bits of a number. -/
abbrev Places := Nat

def joinPairs (width : Nat) : List Places -> List Places
  | first :: second :: rest => (first ||| (second <<< width)) :: joinPairs width rest
  | rest => rest

/-- Joins sets of as many places each into one.  Every round halves their number, so the fuel need
not exceed it. -/
def joinAll : Nat -> Nat -> List Places -> Places
  | _, _, [] => 0
  | _, _, [places] => places
  | 0, _, _ => 0
  | fuel + 1, width, sets => joinAll fuel (2 * width) (joinPairs width sets)

def placesOf (answers : List Bool) : Places :=
  joinAll answers.length 1 (answers.map Bool.toNat)

/-- The characters before and behind every place of a text. -/
def surroundings (text : List Char) : List (Option Char × Option Char) :=
  let chars := text.map some
  (none :: chars).zip (chars ++ [none])

def isWordChar (c : Char) : Bool :=
  c.isAlphanum || c == '_'

def Edge.holds (edge : Edge) (before behind : Option Char) : Bool :=
  let inside := before.any isWordChar
  let ahead := behind.any isWordChar
  match edge with
  | .either => inside != ahead
  | .neither => inside == ahead
  | .start => !inside && ahead
  | .stop => inside && !ahead
  | .startHalf => !inside
  | .stopHalf => !ahead

/-- Whether a condition holds between the characters around a place.  A carriage return and a
newline behind it end one line, not two. -/
def Condition.holds (condition : Condition) (before behind : Option Char) : Bool :=
  match condition with
  | .textStart => before.isNone
  | .textStop => behind.isNone
  | .lineStart => before.all (· == '\n')
  | .lineStop => behind.all (· == '\n')
  | .returnStart => before.all fun c => c == '\n' || (c == '\r' && behind != some '\n')
  | .returnStop => behind.all fun c => c == '\r' || (c == '\n' && before != some '\r')
  | .edge kind => kind.holds before behind

/-! ## Walks -/

/-- A way through a text: an expression that has for every test the set of places that pass it. -/
inductive Walk where
  | stay
  /-- Over one character, from places before such a character. -/
  | step (before : Places)
  /-- From such places only. -/
  | check (here : Places)
  | sequence (first second : Walk)
  | either (first second : Walk)
  /-- As often as is asked for, and up to a number of times more. -/
  | again (body : Walk) (least more : Nat)
  /-- Once or more.  Every such walk has a number of its own. -/
  | loop (number : Nat) (body : Walk)

/-- The places that every loop has been entered from, by its number. -/
abbrev Trail := Array Places

def exactly (walk : Places -> Trail -> Places × Trail) :
    Nat -> Places -> Trail -> Places × Trail
  | 0, places, trail => (places, trail)
  | count + 1, places, trail =>
      let (places, trail) := walk places trail
      exactly walk count places trail

def atMost (walk : Places -> Trail -> Places × Trail) :
    Nat -> Places -> Trail -> Places × Trail
  | 0, places, trail => (places, trail)
  | count + 1, places, trail =>
      let (reached, trail) := walk places trail
      let more := places ||| reached
      if more = places then (places, trail) else atMost walk count more trail

/-- Takes the body of a loop from places that it has not been entered from yet, and again from
where it leads to.  Every round enters from a new place, so the fuel need not exceed their
number. -/
def around (walk : Places -> Trail -> Places × Trail) (number : Nat) :
    Nat -> Places -> Places -> Trail -> Places × Trail
  | 0, reached, _, trail => (reached, trail)
  | fuel + 1, reached, places, trail =>
      let before := trail.getD number 0
      let fresh := places ^^^ (places &&& before)
      if fresh = 0 then (reached, trail)
      else
        let (next, trail) := walk fresh (trail.setIfInBounds number (before ||| fresh))
        around walk number fuel (reached ||| next) next trail

namespace Walk

/-- The places to which a walk leads from a set of places, for the first time as far as loops are
concerned: what a loop leads to from places where it was entered before is known already.  The text
has as many places as `limit`. -/
def run (limit : Nat) (walk : Walk) (places : Places) (trail : Trail) : Places × Trail :=
  if places = 0 then (0, trail)
  else
    match walk with
    | .stay => (places, trail)
    | .step before => (2 * (places &&& before), trail)
    | .check here => (places &&& here, trail)
    | .sequence first second =>
        let (places, trail) := first.run limit places trail
        second.run limit places trail
    | .either first second =>
        let (left, trail) := first.run limit places trail
        let (right, trail) := second.run limit places trail
        (left ||| right, trail)
    | .again body least more =>
        let (places, trail) := exactly (body.run limit) least places trail
        atMost (body.run limit) more places trail
    | .loop number body => around (body.run limit) number limit 0 places trail

@[simp] theorem run_zero (limit : Nat) (walk : Walk) (trail : Trail) :
    walk.run limit 0 trail = (0, trail) := by
  cases walk <;> simp [run]

def behindCopies (body rest : Nat -> Walk × Nat) : Nat -> Nat -> Walk × Nat
  | 0, number => rest number
  | count + 1, number =>
      let (first, number) := body number
      let (second, number) := behindCopies body rest count number
      (.sequence first second, number)

def upToCopies (body : Nat -> Walk × Nat) : Nat -> Nat -> Walk × Nat
  | 0, number => (.stay, number)
  | count + 1, number =>
      let (first, number) := body number
      let (rest, number) := upToCopies body count number
      (.either .stay (.sequence first rest), number)

def looped (body : Nat -> Walk × Nat) (number : Nat) : Walk × Nat :=
  let (walk, next) := body (number + 1)
  (.loop number walk, next)

end Walk

namespace Expression

def hasLoop {σ π : Type} : Expression σ π -> Bool
  | .char _ | .empty | .place _ | .wideEdge _ => false
  | .group _ body => body.hasLoop
  | .sequence first second | .either first second => first.hasLoop || second.hasLoop
  | .repetition body _ most _ => most.isNone || body.hasLoop

def placesBefore (text : List Char) (charClass : CharClass) : Places :=
  placesOf (text.map charClass.set.contains)

def placesWith (text : List Char) (condition : Condition) : Places :=
  placesOf ((surroundings text).map fun pair => condition.holds pair.1 pair.2)

def onText (text : List Char) (expression : Meaning) : Expression Places Places :=
  expression.map (placesBefore text) (placesWith text)

/-- The walk of an expression through a text, whose loops have the numbers from `number` on, and
the next number.  Nothing can be repeated more often than the text has places without staying at
one of them, so `limit`, their number, stands for any greater count.  A body with loops in it is
copied as often as it is repeated. -/
def walk (limit : Nat) : Expression Places Places -> Nat -> Walk × Nat
  | .empty, number => (.stay, number)
  | .char before, number => (.step before, number)
  | .place here, number => (.check here, number)
  | .wideEdge _, number => (.check 0, number)
  | .group _ body, number => body.walk limit number
  | .sequence first second, number =>
      let (first, number) := first.walk limit number
      let (second, number) := second.walk limit number
      (.sequence first second, number)
  | .either first second, number =>
      let (first, number) := first.walk limit number
      let (second, number) := second.walk limit number
      (.either first second, number)
  | .repetition body least none _, number =>
      if least = 0 then
        let (loop, number) := Walk.looped (body.walk limit) number
        (.either .stay loop, number)
      else
        Walk.behindCopies (body.walk limit) (Walk.looped (body.walk limit))
          (min (least - 1) limit) number
  | .repetition body least (some most) _, number =>
      if body.hasLoop then
        Walk.behindCopies (body.walk limit)
          (Walk.upToCopies (body.walk limit) (min (most - least) limit)) (min least limit) number
      else
        let (once, number) := body.walk limit number
        (.again once (min least limit) (min (most - least) limit), number)

def occursIn (expression : Meaning) (text : String) : Bool :=
  let chars := text.toList
  let limit := chars.length + 1
  let (walk, loops) := (expression.onText chars).walk limit 0
  (walk.run limit (placesOf (List.replicate limit true)) (Array.replicate loops 0)).1 != 0

end Expression

end DisplayInventory.Pattern
