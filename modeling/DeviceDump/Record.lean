/-
Records: the fields of one message in the order in which their names first appeared, with an index from each name to
its place, so that looking a field up does not search.

`put` is the one operation that changes a record: a new name goes to the end, a known one keeps its place and gets the
new value. Every record in use is built from the empty one by `put`, so the index always points at the name it was
asked for.
-/
import DeviceDump.Value
import Std.Data.TreeMap

namespace DeviceDump

/-- fields in order of first appearance, and where each name stands -/
structure Record where
  fields : Array (Name × Value) := #[]
  index : Std.TreeMap Name Nat := ∅

namespace Record

instance : BEq Record := ⟨fun r s => r.fields == s.fields && r.index == s.index⟩

/-- the record without fields -/
def empty : Record := {}

/-- the fields in order -/
def toList (r : Record) : List (Name × Value) := r.fields.toList

def size (r : Record) : Nat := r.fields.size

def isEmpty (r : Record) : Bool := r.fields.isEmpty

/-- the value under a name -/
def get? (r : Record) (name : Name) : Option Value :=
  match r.index[name]? with
  | none => none
  | some place => (r.fields[place]?).map Prod.snd

def contains (r : Record) (name : Name) : Bool := (r.get? name).isSome

/-- the integer under a name, if the field is there and holds one -/
def integer? (r : Record) (name : Name) : Option Int64 := (r.get? name).bind Value.integer?

/-- the text under a name, if the field is there and holds one -/
def text? (r : Record) (name : Name) : Option Text := (r.get? name).bind Value.text?

/-- put a value under a name; the value that stood there before comes back beside the new record -/
def put (r : Record) (name : Name) (value : Value) : Option Value × Record :=
  match r.index[name]? with
  | some place => (r.get? name, { r with fields := r.fields.modify place fun field => (field.1, value) })
  | none => (none, ⟨r.fields.push (name, value), r.index.insert name r.fields.size⟩)

/-- put a value under a name -/
def insert (r : Record) (name : Name) (value : Value) : Record := (r.put name value).2

/-- put several values, one after the other -/
def insertAll (r : Record) (entries : List (Name × Value)) : Record := entries.foldl (fun r e => r.insert e.1 e.2) r

/-- the record built by putting values one after the other -/
def ofList (entries : List (Name × Value)) : Record := empty.insertAll entries

/-- put every field of one record into another -/
def merge (r s : Record) : Record := r.insertAll s.toList

/-- how many fields of the second record are named in the first; a merge replaces the values of so many -/
def shared (r s : Record) : Nat := s.toList.countP fun e => r.contains e.1

/-- an object with one member per field, in order -/
def json (r : Record) : Json := .object (r.toList.map fun (name, value) => (name, value.json))

end Record

end DeviceDump
