/-
What a run reports about itself besides its result: events with a level, and the two forms in which they are written.

An event holds the values it is about; its message and its details are read off it. In the plain form a line starts
with the level and the message and gives each detail as `name=detail`; in the JSON form it is an object with the same
parts in the same order. Only events up to a chosen level are written.
-/
import DeviceDump.Check.Report
import DeviceDump.Log.Level

namespace DeviceDump.Log

inductive Event where
  /-- a list of tokens was brought into canonical form -/
  | normalizedTokens (input normalized : Text)
  /-- so many tokens were counted in the canonical form -/
  | normalizedInput (tokens : Nat)
  /-- a file is about to be read -/
  | readingDump (path : Text)
  /-- a field came again in a dump -/
  | overwritten (o : Dump.Overwrite)
  /-- a dump was read to its end -/
  | parsedRecord (fields : Nat)
  | checkPassed (c : Confirmation)
  | checkFailed (v : Violation)
  /-- so many checks failed -/
  | validationFailed (violations : Nat)
  deriving DecidableEq

/-- a detail of an event: text that is quoted in plain lines, text that is not, or a count -/
inductive Detail where
  | quoted (t : Text)
  | plain (t : Text)
  | count (n : Nat)

namespace Event

def level : Event → Level
  | .normalizedTokens .. | .parsedRecord _ => .trace
  | .checkPassed _ => .info
  | .normalizedInput _ | .readingDump _ | .overwritten _ | .checkFailed _ | .validationFailed _ => .debug

def message : Event → Text
  | .normalizedTokens .. => "normalized hex tokens"
  | .normalizedInput _ => "normalized input"
  | .readingDump _ => "reading debug dump"
  | .overwritten _ => "duplicate field overwrites earlier value"
  | .parsedRecord _ => "parsed debug record"
  | .checkPassed c => "Check OK: " ++ c.message
  | .checkFailed _ => "check failed"
  | .validationFailed _ => "debug record failed validation"

def details : Event → List (Text × Detail)
  | .normalizedTokens input normalized => [("input", .quoted input), ("normalized", .plain normalized)]
  | .normalizedInput tokens => [("tokens", .count tokens)]
  | .readingDump path => [("path", .plain path)]
  | .overwritten o => [("field", .quoted o.field), ("previous", .plain o.previous.display)]
  | .parsedRecord fields => [("fields", .count fields)]
  | .checkPassed _ => []
  | .checkFailed v => [("violation", .plain v.message)]
  | .validationFailed violations => [("violations", .count violations)]

end Event

/-! ## Writing -/

namespace Detail

def text : Detail → Text
  | .quoted t => Text.Quoted.ofText t
  | .plain t => t
  | .count n => Text.Decimal.ofNat n

def json : Detail → Json
  | .quoted t => .text t
  | .plain t => .text t
  | .count n => .integer n

end Detail

/-- an event as a plain line -/
def plainLine (e : Event) : Text :=
  e.level.label ++ ' ' :: e.message ++ e.details.flatMap fun (name, detail) => ' ' :: name ++ '=' :: detail.text

/-- an event as an object -/
def jsonLine (e : Event) : Text :=
  Json.write (.object [("level", .text e.level.label),
    ("fields", .object (("message", .text e.message) :: e.details.map fun (name, detail) => (name, detail.json)))])

/-- the lines of the events up to a level -/
def lines (format : Format) (level : Level) (events : List Event) : List Text :=
  (events.filter (·.level.rank ≤ level.rank)).map fun e =>
    match format with
    | .text => plainLine e
    | .json => jsonLine e

/-! ## The events of reading and checking -/

/-- what reading a dump reports: every overwrite, and at its end the number of fields -/
def ofScan : Dump.Reading × Option DumpError → List Event
  | (r, some _) => r.overwrites.toList.map .overwritten
  | (r, none) => r.overwrites.toList.map .overwritten ++ [.parsedRecord r.record.size]

/-- what one check reports; confirmations are reported only if asked for -/
def ofFinding (verbose : Bool) : Finding → List Event
  | .confirmed c => if verbose then [.checkPassed c] else []
  | .violated v => [.checkFailed v]

/-- what checking a record reports: every check, and at the end the number of failures if there are any -/
def ofReport (verbose : Bool) (r : Report) : List Event :=
  r.findings.flatMap (ofFinding verbose) ++ if r.isValid then [] else [.validationFailed r.violations.length]

end DeviceDump.Log
