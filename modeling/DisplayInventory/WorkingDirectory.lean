import DisplayInventory.IoError
import DisplayInventory.Path
import DisplayInventory.Table

/-!
# The working directory

The files beside which the program is started, as far as it appends to them.  The directory holds
plain files only.  A path is followed from directory to directory; what lies outside the working
directory is known only so far as paths lead through it, and a text written there is not seen
again.
-/

namespace DisplayInventory

abbrev WorkingDirectory := Table String String

namespace WorkingDirectory

inductive Directory where
  | working
  /-- The directories above it, up to the root. -/
  | above
  | devices
  | temporary
  deriving DecidableEq

/-- What takes the text written to an opened file. -/
inductive Outlet where
  /-- A file of the working directory. -/
  | file (name : String)
  /-- The error output of the program. -/
  | errorOutput
  | elsewhere
  deriving DecidableEq

inductive Entry where
  | directory (directory : Directory)
  | outlet (outlet : Outlet)
  deriving DecidableEq

def nameLimit : Nat := 255

def pathLimit : Nat := 4095

def exceeds (limit : Nat) (text : String) : Bool :=
  limit < (Text.Utf8.encode text).length

def entry? (files : WorkingDirectory) (directory : Directory) (name : String) : Option Entry :=
  match directory, name with
  | .working, name => if files.contains name then some (.outlet (.file name)) else none
  | .above, "dev" => some (.directory .devices)
  | .above, "tmp" => some (.directory .temporary)
  | .devices, "null" => some (.outlet .elsewhere)
  | .devices, "stderr" => some (.outlet .errorOutput)
  | _, _ => none

def newOutlet (directory : Directory) (name : String) : Outlet :=
  match directory with
  | .working => .file name
  | _ => .elsewhere

def lookUp (files : WorkingDirectory) (directory : Directory) (name : String) :
    Except IoError Entry :=
  if exceeds nameLimit name then .error IoError.nameTooLong
  else
    match files.entry? directory name with
    | some entry => .ok entry
    | none => .error IoError.missing

def descend (files : WorkingDirectory) (directory : Directory) (part : List Char) :
    Except IoError Directory :=
  match part with
  | ['.'] => .ok directory
  | ['.', '.'] => .ok .above
  | name =>
      match files.lookUp directory (String.ofList name) with
      | .error cause => .error cause
      | .ok (.outlet _) => .error IoError.notDirectory
      | .ok (.directory next) => .ok next

/-- Opens the last part of a path for appending.  It has to name a file, so it is not a directory
and has no slash behind it. -/
def openLast (files : WorkingDirectory) (directory : Directory) (part : List Char)
    (closed : Bool) : Except IoError Outlet :=
  match part with
  | ['.'] => .error IoError.isDirectory
  | ['.', '.'] => .error IoError.isDirectory
  | chars =>
      let name := String.ofList chars
      if closed then .error IoError.isDirectory
      else if exceeds nameLimit name then .error IoError.nameTooLong
      else
        match files.entry? directory name with
        | some (.directory _) => .error IoError.isDirectory
        | some (.outlet outlet) => .ok outlet
        | none => .ok (newOutlet directory name)

/-- Follows the parts of a path, none of which is empty, from a directory. -/
def follow (files : WorkingDirectory) (closed : Bool) :
    Directory -> List (List Char) -> Except IoError Outlet
  | _, [] => .error IoError.isDirectory
  | directory, [last] => files.openLast directory last closed
  | directory, part :: next :: rest =>
      match files.descend directory part with
      | .error cause => .error cause
      | .ok inner => follow files closed inner (next :: rest)

def outletAt (files : WorkingDirectory) (path : String) : Except IoError Outlet :=
  if path.isEmpty then .error IoError.missing
  else if exceeds pathLimit path then .error IoError.nameTooLong
  else
    let parts := Path.parts path.toList
    let start := if Path.isAbsolute path then Directory.above else .working
    files.follow (parts.getLast? == some []) start (parts.filter (· != []))

/-- The directory with a text added to a file; a file that was absent begins empty. -/
def append (files : WorkingDirectory) (name text : String) : WorkingDirectory :=
  files.insert name ((files.find? name).getD "" ++ text)

end WorkingDirectory

end DisplayInventory
