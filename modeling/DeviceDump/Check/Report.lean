/-
Checking a record against what is expected of a message.

First each required field is looked for, then the message type, the version and the token length are compared with the
expected ones; a comparison is made only where the field holds an integer. Every check that is made ends in a finding,
and findings stand in the order of the checks. No check stops the others.
-/
import DeviceDump.Check.Finding
import DeviceDump.Record.Dump

namespace DeviceDump

namespace Check

/-- is a required field there? -/
def presence (r : Record) (field : Name) : Finding :=
  if r.contains field then .confirmed (.present field) else .violated (.missing field)

/-- is the message type the expected one? -/
def type (e : Expectation) (r : Record) : Option Finding :=
  (r.integer? Field.type).map fun actual =>
    if actual = e.type.code then .confirmed (.type e.type) else .violated (.type actual e.type)

/-- is the version the expected one? -/
def version (e : Expectation) (r : Record) : Option Finding :=
  (r.integer? Field.version).map fun actual =>
    if actual = e.version then .confirmed (.version e.version) else .violated (.version actual e.version)

/-- is the token length the expected one? -/
def tokenLength (e : Expectation) (r : Record) : Option Finding :=
  (r.integer? Field.tokenLength).map fun actual =>
    if actual = e.tokenLength then .confirmed (.tokenLength e.tokenLength)
    else .violated (.tokenLength actual e.tokenLength)

/-- all checks, in order -/
def findings (e : Expectation) (r : Record) : List Finding :=
  Field.required.map (presence r) ++ (type e r).toList ++ (version e r).toList ++ (tokenLength e r).toList

end Check

/-- a checked record -/
structure Report where
  record : Record
  findings : List Finding

namespace Report

def violations (r : Report) : List Violation := r.findings.filterMap Finding.violation?

def confirmations (r : Report) : List Confirmation := r.findings.filterMap Finding.confirmation?

def isValid (r : Report) : Bool := r.violations.isEmpty

/-- the record if nothing is wrong with it, else all that is -/
def result (r : Report) : Except (List Violation) Record :=
  if r.violations.isEmpty then .ok r.record else .error r.violations

def json (r : Report) : Json :=
  .object [("record", r.record.json), ("violations", .array (r.violations.map (.text ·.message))),
    ("confirmations", .array (r.confirmations.map (.text ·.message)))]

end Report

/-- check a record -/
def Expectation.check (e : Expectation) (r : Record) : Report := ⟨r, Check.findings e r⟩

namespace Dump

/-- read a dump and check the record -/
def parseAndCheck (dump : Text) (e : Expectation) : Except DumpError Report := (parse dump).map e.check

/-- why a dump is not accepted -/
inductive Rejection where
  | unreadable (e : DumpError)
  | invalid (violations : List Violation)
  deriving DecidableEq

def Rejection.message : Rejection → Text
  | .unreadable e => e.message
  | .invalid violations => Violation.summary violations

/-- read a dump and accept it only if the default checks find nothing wrong -/
def parseValidated (dump : Text) : Except Rejection Record :=
  match parse dump with
  | .error e => .error (.unreadable e)
  | .ok r =>
    match (({} : Expectation).check r).result with
    | .error violations => .error (.invalid violations)
    | .ok r => .ok r

end Dump

end DeviceDump
