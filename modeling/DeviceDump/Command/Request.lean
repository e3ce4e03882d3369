/-
Requests, what a run can be asked to do, and the reasons for which an argument list makes none.
-/
import DeviceDump.Log.Level
import DeviceDump.Rendering

namespace DeviceDump.Command

/-- where a dump is read from -/
inductive Source where
  | standardInput
  | file (path : Text)
  deriving DecidableEq

inductive Action where
  | normalize (input : Text)
  | parse (source : Source) (verbose : Bool)
  | version (extended : Bool)
  deriving DecidableEq

/-- what a run is asked to do -/
structure Request where
  action : Action
  /-- the form of output, if not the action's own -/
  format : Option Format := none
  logFormat : Log.Format := .text
  logLevel : Log.Level := .warn
  deriving DecidableEq

/-- the environment, as far as it is looked at -/
structure Environment where
  dumpPath : Option Text := none
  logLevel : Option Text := none

/-- where a device's tooling leaves its dump -/
def defaultDumpPath : Text := "/tmp/coap_output.txt"

/-- what is wrong with an argument list -/
inductive UsageError where
  | noCommand
  | unknownCommand (word : Text)
  | unknownOption (option : Text)
  | unexpectedOperand (word : Text)
  | missingOperand
  | missingValue (option : Text)
  | invalidValue (option value : Text)
  | unneededValue (option : Text)
  | repeated (option : Text)
  deriving DecidableEq

def UsageError.message : UsageError → Text
  | .noCommand => "a command is required"
  | .unknownCommand word => "unknown command '" ++ word ++ "'"
  | .unknownOption option => "unknown option '" ++ option ++ "'"
  | .unexpectedOperand word => "unexpected argument '" ++ word ++ "'"
  | .missingOperand => "an argument is required"
  | .missingValue option => "a value is required for '" ++ option ++ "'"
  | .invalidValue option value => "invalid value '" ++ value ++ "' for '" ++ option ++ "'"
  | .unneededValue option => "no value is allowed for '" ++ option ++ "'"
  | .repeated option => "'" ++ option ++ "' can be given only once"

/-- why an argument list makes no request -/
inductive Stop where
  | help
  | version
  | usage (e : UsageError)
  deriving DecidableEq

end DeviceDump.Command
