/-
How serious a log event is, and how log lines are written: the two choices that a run makes about its log.
-/
import DeviceDump.Text.Basic

namespace DeviceDump.Log

/-- levels, the most serious first -/
inductive Level where
  | error
  | warn
  | info
  | debug
  | trace
  deriving DecidableEq

namespace Level

def name : Level → Text
  | .error => "error"
  | .warn => "warn"
  | .info => "info"
  | .debug => "debug"
  | .trace => "trace"

/-- the name as it stands in a log line -/
def label : Level → Text
  | .error => "ERROR"
  | .warn => "WARN"
  | .info => "INFO"
  | .debug => "DEBUG"
  | .trace => "TRACE"

/-- a larger rank is less serious -/
def rank : Level → Nat
  | .error => 0
  | .warn => 1
  | .info => 2
  | .debug => 3
  | .trace => 4

def ofName? (t : Text) : Option Level := [error, warn, info, debug, trace].find? (·.name = t)

end Level

/-- how log lines are written -/
inductive Format where
  | text
  | json
  deriving DecidableEq

namespace Format

def name : Format → Text
  | .text => "text"
  | .json => "json"

def ofName? (t : Text) : Option Format := [text, json].find? (·.name = t)

end Format

end DeviceDump.Log
