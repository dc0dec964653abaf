import DisplayInventory.Text.Utf8

/-!
# Paths

A path is a text whose parts are separated by slashes.  Empty parts and parts of a single dot lead
nowhere, so what counts of a path are its steps: down into a name, or up to the directory above.
Absolute paths with the same steps differ in their spelling alone; they are ordered step by step,
a step up before every name and names by their bytes.
-/

namespace DisplayInventory.Path

def parts : List Char -> List (List Char)
  | [] => [[]]
  | c :: rest =>
      if c = '/' then [] :: parts rest
      else
        match parts rest with
        | [] => [[c]]
        | part :: more => (c :: part) :: more

theorem parts_ne_nil (path : List Char) : parts path ≠ [] := by
  induction path with
  | nil => simp [parts]
  | cons c rest ih =>
      by_cases h : c = '/'
      · simp [parts, h]
      · cases hrest : parts rest with
        | nil => exact (ih hrest).elim
        | cons part more => simp [parts, h, hrest]

/-- A path without slashes is its own only part. -/
theorem parts_of_not_mem {path : List Char} (hplain : '/' ∉ path) : parts path = [path] := by
  induction path with
  | nil => rfl
  | cons c rest ih =>
      have hc : ¬c = '/' := fun h => hplain (by simp [h])
      have hrest : '/' ∉ rest := fun h => hplain (by simp [h])
      simp [parts, hc, ih hrest]

/-- A slash separates the parts before it from the parts behind it. -/
theorem parts_append_slash (first second : List Char) :
    parts (first ++ '/' :: second) = parts first ++ parts second := by
  induction first with
  | nil => simp [parts]
  | cons c rest ih =>
      by_cases h : c = '/'
      · simp [parts, h, ih]
      · cases hrest : parts rest with
        | nil => exact (parts_ne_nil rest hrest).elim
        | cons part more => simp [parts, h, ih, hrest]

/-- A part of a path that leads somewhere. -/
inductive Step where
  /-- To the directory above. -/
  | up
  /-- To the entry of a name. -/
  | into (name : String)
  deriving DecidableEq

def step? (part : List Char) : Option Step :=
  match part with
  | [] => none
  | ['.'] => none
  | ['.', '.'] => some .up
  | name => some (.into (String.ofList name))

def steps (path : String) : List Step :=
  (parts path.toList).filterMap step?

/-- The name that a path ends in; a path that ends with a step up has none. -/
def fileName? (path : String) : Option String :=
  match (steps path).getLast? with
  | some (.into name) => some name
  | _ => none

def isAbsolute (path : String) : Bool :=
  path.toList.head? == some '/'

/-- The path of an entry of a directory; an absolute entry takes the place of the directory. -/
def join (directory entry : String) : String :=
  if isAbsolute entry then entry else directory ++ "/" ++ entry

def bytesNoLater : List UInt8 -> List UInt8 -> Bool
  | [], _ => true
  | _ :: _, [] => false
  | a :: first, b :: second => a < b || (a == b && bytesNoLater first second)

def Step.noLater : Step -> Step -> Bool
  | .up, _ => true
  | .into _, .up => false
  | .into first, .into second => bytesNoLater (Text.Utf8.encode first) (Text.Utf8.encode second)

def stepsNoLater : List Step -> List Step -> Bool
  | [], _ => true
  | _ :: _, [] => false
  | a :: first, b :: second => if a = b then stepsNoLater first second else a.noLater b

/-- Whether an absolute path does not come after another. -/
def noLater (first second : String) : Bool :=
  stepsNoLater (steps first) (steps second)

end DisplayInventory.Path
