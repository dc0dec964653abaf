import DisplayInventory.Pattern.Meaning
import DisplayInventory.Pattern.Reader
import DisplayInventory.Pattern.Search
import DisplayInventory.Pattern.Weight

/-!
# Patterns

A pattern is a regular expression that is looked for in a text.  `Pattern.ofText` reads one or tells
why it can not be had; `Pattern.occursIn` looks for it.
-/

namespace DisplayInventory

structure Pattern where
  meaning : Pattern.Meaning
  deriving DecidableEq

namespace Pattern

/-- Why a text is refused as a pattern. -/
inductive Refusal where
  | fault (text : String) (found : Fault)
  /-- It weighs too much. -/
  | tooHeavy
  /-- It asks for the edges of words of any characters. -/
  | wideEdge
  deriving DecidableEq

def Refusal.message : Refusal -> String
  | .fault text found => found.message text
  | .tooHeavy =>
      "Compiled regex exceeds size limit of " ++ Text.decimal weightLimit ++ " bytes."
  | .wideEdge => "error building NFA"

def ofText (text : String) : Except Refusal Pattern :=
  match Tree.ofText text with
  | .error fault => .error (.fault text fault)
  | .ok tree =>
      match tree.meaning {} with
      | .error fault => .error (.fault text fault)
      | .ok (meaning, _) =>
          if weightLimit < meaning.weight .forward then .error .tooHeavy
          else if meaning.hasWideEdge then .error .wideEdge
          else if weightLimit < meaning.weight .backward then .error .tooHeavy
          else .ok ⟨meaning⟩

def occursIn (pattern : Pattern) (text : String) : Bool :=
  pattern.meaning.occursIn text

end Pattern

end DisplayInventory
