/-!
# Layout of a text block

A report is made of blocks, and a block of lines.  Most lines are fields: an indented label padded
to the width of its block, a colon and a value.  This file holds the layout alone; which fields a
block has is decided where its object is described.
-/

namespace DisplayInventory.Text

def decimal (n : Nat) : String :=
  Nat.repr n

def signed : Int -> String
  | .ofNat n => decimal n
  | .negSucc n => "-" ++ decimal (n + 1)

/-- `text` followed by as many spaces as it lacks to `width` characters. -/
def padRight (width : Nat) (text : String) : String :=
  text ++ String.ofList (List.replicate (width - text.length) ' ')

def unlines (lines : List String) : String :=
  String.join (lines.map fun line => line ++ "\n")

@[simp] theorem unlines_nil : unlines [] = "" := rfl

theorem unlines_cons (line : String) (rest : List String) :
    unlines (line :: rest) = line ++ "\n" ++ unlines rest := by
  simp [unlines]

theorem unlines_append (first second : List String) :
    unlines (first ++ second) = unlines first ++ unlines second := by
  simp [unlines]

/-- One field of a block whose labels are `width` characters wide. -/
def field (width : Nat) (label value : String) : String :=
  "\t" ++ padRight width label ++ ": " ++ value

def spaced (numbers : List Nat) : String :=
  String.intercalate " " (numbers.map decimal)

def listField (width : Nat) (label : String) (numbers : List Nat) : List String :=
  if numbers.isEmpty then [] else [field width label (spaced numbers)]

end DisplayInventory.Text
