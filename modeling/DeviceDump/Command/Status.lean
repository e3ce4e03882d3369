/-
How a run ends: exit statuses, and failures that carry one.

Malformed or invalid data of any kind ends with the same status; what went wrong while reading decides by its kind. A
failure's message is its context, a colon and the cause.
-/
import DeviceDump.Check.Report
import DeviceDump.Hex.Token

namespace DeviceDump.Command

/-- an exit status -/
inductive Status where
  | success
  | failure
  | permissionDenied
  | dataInvalid
  | usage
  | internal
  deriving DecidableEq

def Status.code : Status → Nat
  | .success => 0
  | .failure => 1
  | .permissionDenied => 50
  | .dataInvalid => 60
  | .usage => 64
  | .internal => 125

/-! ## Reading -/

/-- the kinds of errors that reading can end in, as far as they are told apart -/
inductive ReadFault where
  | permissionDenied
  | notFound
  | invalidData
  | unexpectedEnd
  | interrupted
  | other
  deriving DecidableEq

namespace ReadFault

/-- the text of a kind, where no closer one is known -/
def description : ReadFault → Text
  | .permissionDenied => "permission denied"
  | .notFound => "entity not found"
  | .invalidData => "invalid data"
  | .unexpectedEnd => "unexpected end of file"
  | .interrupted => "operation interrupted"
  | .other => "other error"

def status : ReadFault → Status
  | .permissionDenied => .permissionDenied
  | .notFound => .failure
  | .invalidData => .dataInvalid
  | .unexpectedEnd | .interrupted | .other => .internal

end ReadFault

/-- an error of reading, with its text -/
structure ReadError where
  fault : ReadFault
  text : Text
  deriving DecidableEq

namespace ReadError

def notFound : ReadError := ⟨.notFound, "No such file or directory (os error 2)"⟩
def permissionDenied : ReadError := ⟨.permissionDenied, "Permission denied (os error 13)"⟩
def notDirectory : ReadError := ⟨.other, "Not a directory (os error 20)"⟩
def isDirectory : ReadError := ⟨.other, "Is a directory (os error 21)"⟩
def nameTooLong : ReadError := ⟨.other, "File name too long (os error 36)"⟩
def notUtf8 : ReadError := ⟨.invalidData, "stream did not contain valid UTF-8"⟩

/-- the error that the system gives a number and a text for -/
def ofSystem (number : Nat) (text : Text) : ReadError :=
  match number with
  | 2 => notFound
  | 13 => permissionDenied
  | 20 => notDirectory
  | 21 => isDirectory
  | 36 => nameTooLong
  | n => ⟨if n = 1 then .permissionDenied else .other, text ++ " (os error " ++ Text.Decimal.ofNat n ++ ")"⟩

end ReadError

/-! ## Failures -/

/-- a failed run: its exit status and the message that ends it -/
structure Failure where
  status : Status
  message : Text
  deriving DecidableEq

namespace Failure

/-- a cause in its context -/
def because (status : Status) (context cause : Text) : Failure := ⟨status, context ++ ": " ++ cause⟩

def ofRead (context : Text) (e : ReadError) : Failure := because e.fault.status context e.text

def ofToken (context : Text) (e : Hex.TokenError) : Failure := because .dataInvalid context e.message

def ofDump (context : Text) (e : DumpError) : Failure := because .dataInvalid context e.message

def ofViolations (context : Text) (violations : List Violation) : Failure :=
  because .dataInvalid context (Text.Decimal.ofNat violations.length ++ " violation(s)")

end Failure

end DeviceDump.Command
