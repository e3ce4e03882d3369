/-
The forms in which results are printed: a record that passed its checks, and a list of tokens beside its canonical
form.

Each result has four forms. The raw form is what another program reads: the dump of a record, or the canonical form
alone. The JSON form is one line. Every form ends with a newline, the raw and the pretty form of a record with one per
field.
-/
import DeviceDump.Hex.Token
import DeviceDump.Record.Dump
import DeviceDump.Table

namespace DeviceDump

/-- a form of output -/
inductive Format where
  | json
  | table
  | pretty
  | raw
  deriving DecidableEq

namespace Format

def name : Format → Text
  | .json => "json"
  | .table => "table"
  | .pretty => "pretty"
  | .raw => "raw"

def ofName? (t : Text) : Option Format := [json, table, pretty, raw].find? (·.name = t)

end Format

/-! ## Records -/

namespace Record

/-- a row per field: its name, its kind and its value -/
def table (r : Record) : Table where
  header := ["FIELD", "KIND", "VALUE"]
  rows := r.toList.map fun (name, value) => [name, value.kind.name, value.display]

/-- a line per field -/
def prettyLines (r : Record) : List Text := r.toList.map fun (name, value) => name ++ ": " ++ value.display

def render (r : Record) : Format → Text
  | .json => Text.line r.json.write
  | .table => Text.lineSeq r.table.lines
  | .pretty => Text.lineSeq r.prettyLines
  | .raw => r.dump

end Record

/-! ## Canonical forms -/

/-- a list of tokens as it was given, and its canonical form -/
structure Normalized where
  input : Text
  canonical : Text

namespace Normalized

/-- the tokens of the canonical form -/
def parts (n : Normalized) : List Text := n.canonical.words

def json (n : Normalized) : Json :=
  .object [("input", .text n.input), ("normalized", .text n.canonical), ("token_count", .integer n.parts.length)]

/-- a row per token: its number, its text as given and its canonical form -/
def table (n : Normalized) : Table where
  header := ["#", "INPUT", "CANONICAL"]
  rows := ((Hex.tokens n.input).zip n.parts).zipIdx.map fun ((given, canonical), i) =>
    [Text.Decimal.ofNat i, given, canonical]

def render (n : Normalized) : Format → Text
  | .json => Text.line n.json.write
  | .table => Text.lineSeq n.table.lines
  | .pretty => Text.line (n.canonical ++ " (" ++ Text.Decimal.ofNat n.parts.length ++ " bytes)")
  | .raw => Text.line n.canonical

end Normalized

end DeviceDump
