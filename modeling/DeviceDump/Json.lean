/-
JSON documents and their compact form: no blanks between the parts, members in the order in which they are held, and
in strings only the escapes that the format asks for.

In a string the quotation mark, the backslash and the characters below U+0020 are escaped, those with a short form by
it and the others by four lower-case hexadecimal digits; everything else stands for itself.
-/
import DeviceDump.Text.Decimal

namespace DeviceDump

/-- a document; an object keeps its members in order -/
inductive Json where
  | text (t : Text)
  | integer (n : Int)
  | array (items : List Json)
  | object (members : List (Text × Json))

namespace Json

/-- a character as it stands in a string -/
def escaped (c : Char) : Text :=
  match c with
  | '"' => ['\\', '"']
  | '\\' => ['\\', '\\']
  | '\x08' => ['\\', 'b']
  | '\x0c' => ['\\', 'f']
  | '\n' => ['\\', 'n']
  | '\r' => ['\\', 'r']
  | '\t' => ['\\', 't']
  | c =>
    if c.toNat < 0x20 then ['\\', 'u', '0', '0', Nat.digitChar (c.toNat / 16), Nat.digitChar (c.toNat % 16)] else [c]

/-- a string between its marks -/
def quoted (t : Text) : Text := '"' :: (t.flatMap escaped ++ ['"'])

/-- parts between two brackets, with commas between neighbours -/
def enclosed (opening closing : Char) (parts : List Text) : Text := opening :: ([','].intercalate parts ++ [closing])

mutual

/-- the compact form of a document -/
def write : Json → Text
  | .text t => quoted t
  | .integer n => Text.Decimal.ofInt n
  | .array items => enclosed '[' ']' (writeItems items)
  | .object members => enclosed '\x7b' '\x7d' (writeMembers members)

/-- the compact forms of an array's items -/
def writeItems : List Json → List Text
  | [] => []
  | item :: rest => item.write :: writeItems rest

/-- the compact forms of an object's members -/
def writeMembers : List (Text × Json) → List Text
  | [] => []
  | (name, value) :: rest => (quoted name ++ ':' :: value.write) :: writeMembers rest

end

theorem writeItems_eq (items : List Json) : writeItems items = items.map write := by
  induction items with
  | nil => rfl
  | cons item rest ih => rw [writeItems, ih]; rfl

theorem writeMembers_eq (members : List (Text × Json)) :
    writeMembers members = members.map fun m => quoted m.1 ++ ':' :: m.2.write := by
  induction members with
  | nil => rfl
  | cons m rest ih => rw [writeMembers, ih]; rfl

end Json

end DeviceDump
