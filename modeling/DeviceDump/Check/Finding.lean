/-
What is expected of a message, and what a check of it finds: a confirmation or a violation, each with the values it is
about.
-/
import DeviceDump.Field
import DeviceDump.MessageType

namespace DeviceDump

/-- what is expected of a message; `verbose` asks for confirmations to be logged and changes no finding -/
structure Expectation where
  type : MessageType := .nonConfirmable
  version : Int64 := 1
  tokenLength : Int64 := 1
  verbose : Bool := false
  deriving DecidableEq

/-- a check that passed -/
inductive Confirmation where
  | present (field : Name)
  | type (expected : MessageType)
  | version (expected : Int64)
  | tokenLength (expected : Int64)
  deriving DecidableEq

def Confirmation.message : Confirmation → Text
  | .present field => "required field '" ++ field ++ "' is present"
  | .type expected => "message type " ++ expected.display
  | .version expected => "version = " ++ Text.Decimal.ofWord expected
  | .tokenLength expected => "token length = " ++ Text.Decimal.ofWord expected

/-- a check that failed -/
inductive Violation where
  | missing (field : Name)
  | type (actual : Int64) (expected : MessageType)
  | version (actual expected : Int64)
  | tokenLength (actual expected : Int64)
  deriving DecidableEq

def Violation.message : Violation → Text
  | .missing field => "missing required field: '" ++ field ++ "'"
  | .type actual expected =>
    "invalid message type " ++ Text.Decimal.ofWord actual ++ ": '" ++ MessageType.labelOf actual ++
      "'; valid type = " ++ expected.display
  | .version actual expected =>
    "version must equal " ++ Text.Decimal.ofWord expected ++ "; found '" ++ Text.Decimal.ofWord actual ++ "'"
  | .tokenLength actual expected =>
    "token length must equal " ++ Text.Decimal.ofWord expected ++ "; found '" ++ Text.Decimal.ofWord actual ++ "'"

/-- how a check ended -/
inductive Finding where
  | confirmed (c : Confirmation)
  | violated (v : Violation)
  deriving DecidableEq

namespace Finding

def confirmation? : Finding → Option Confirmation
  | .confirmed c => some c
  | .violated _ => none

def violation? : Finding → Option Violation
  | .confirmed _ => none
  | .violated v => some v

end Finding

/-- all violations in one sentence -/
def Violation.summary (violations : List Violation) : Text :=
  let count := Text.Decimal.ofNat violations.length ++ " validation error(s)"
  match violations with
  | [] => count
  | vs => count ++ ": " ++ ("; " : Text).intercalate (vs.map message)

end DeviceDump
