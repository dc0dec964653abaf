import DisplayInventory.SystemText

/-!
# Failed requests

A request to the system fails with a system error number, with one of a few general kinds of
failure, or with a text of its own.  `IoError.message` is the only place where these are worded.
-/

namespace DisplayInventory

inductive ErrorKind where
  | notFound
  | permissionDenied
  | invalidInput
  | invalidData
  | timedOut
  | writeZero
  | unexpectedEof
  | outOfMemory
  | unsupported
  | brokenPipe
  | other
  deriving DecidableEq

def ErrorKind.message : ErrorKind -> String
  | .notFound => "entity not found"
  | .permissionDenied => "permission denied"
  | .invalidInput => "invalid input parameter"
  | .invalidData => "invalid data"
  | .timedOut => "timed out"
  | .writeZero => "write zero"
  | .unexpectedEof => "unexpected end of file"
  | .outOfMemory => "out of memory"
  | .unsupported => "unsupported"
  | .brokenPipe => "broken pipe"
  | .other => "other error"

inductive IoError where
  /-- The system gave an error number. -/
  | system (errno : Int)
  /-- Only the kind of failure is known. -/
  | general (kind : ErrorKind)
  /-- The failure is described by a text. -/
  | custom (text : String)
  deriving DecidableEq

namespace IoError

def message : IoError -> String
  | .system errno => systemText errno ++ " (os error " ++ Text.signed errno ++ ")"
  | .general kind => kind.message
  | .custom text => text

/-- Whether a request was only interrupted, so that it is to be made again. -/
def isInterruption : IoError -> Bool
  | .system errno => errno == 4
  | _ => false

/-- A sink took none of the bytes it was offered. -/
def shortWrite : IoError :=
  .custom "failed to write whole buffer"

def missing : IoError :=
  .system 2

def notDirectory : IoError :=
  .system 20

def isDirectory : IoError :=
  .system 21

def nameTooLong : IoError :=
  .system 36

end IoError

/-- The wording of a chain of causes on one line, outermost first. -/
def joinCauses (chain : List String) : String :=
  String.intercalate ": " chain

end DisplayInventory
