/-
Records as dumps, the text that a device prints: one line per field, name and value with a colon between them.

Writing puts the fields down in order. Reading takes the lines one after the other: empty lines count but say nothing,
any other line is cut at its first colon, and name and value lose the blanks around them. The first line that cannot
be read ends it. A name that comes again overwrites the earlier value; every such overwrite is reported, with the
value that was lost, whether or not a later line fails.
-/
import DeviceDump.Record

namespace DeviceDump

/-! ## Writing -/

/-- a field as a line of a dump -/
def Record.dumpedField (name : Name) (value : Value) : Text := name ++ ':' :: value.dumped

/-- a record as a dump -/
def Record.dump (r : Record) : Text := Text.lineSeq (r.toList.map fun (name, value) => dumpedField name value)

/-! ## Reading -/

namespace Dump

/-- name and value of a line, from the two sides of its first colon -/
def entry? (line : Text) : Option (Name × Text) :=
  match line.dropWhile (· != ':') with
  | [] => none
  | _ :: raw => some (Text.trim (line.takeWhile (· != ':')), Text.trim raw)

/-- what a line that is not empty says -/
def readLine (line : Text) (number : Nat) : Except DumpError (Name × Value) :=
  match entry? line with
  | none => .error (.malformedLine number line)
  | some (name, raw) => (Value.decode name raw).map (name, ·)

/-- a field that came again, with the value that it lost -/
structure Overwrite where
  field : Name
  previous : Value
  deriving DecidableEq

/-- a reading in progress: the record so far and the overwrites so far -/
structure Reading where
  record : Record := .empty
  overwrites : Array Overwrite := #[]

namespace Reading

/-- take in what a line says -/
def add (r : Reading) (name : Name) (value : Value) : Reading :=
  let (previous, record) := r.record.put name value
  match previous with
  | none => ⟨record, r.overwrites⟩
  | some v => ⟨record, r.overwrites.push ⟨name, v⟩⟩

/-- take in numbered lines up to the first that cannot be read -/
def run (r : Reading) : List (Text × Nat) → Reading × Option DumpError
  | [] => (r, none)
  | (line, number) :: rest =>
    if line.isEmpty then r.run rest
    else
      match readLine line number with
      | .error e => (r, some e)
      | .ok (name, value) => (r.add name value).run rest

end Reading

/-- read a dump from its first line: how far it got, and the error that ended it -/
def scan (dump : Text) : Reading × Option DumpError := Reading.run {} dump.numberedLines

/-- the record that a dump says -/
def parse (dump : Text) : Except DumpError Record :=
  match scan dump with
  | (_, some e) => .error e
  | (r, none) => .ok r.record

end Dump

end DeviceDump
