/-
The fields of a dumped message: their names, which of them every message must carry, and how the value of each is
written.

Any name is allowed. The three names with a kind of their own are `payload`, `uri_path` and `uri_query`; every other
field is an integer.
-/
import DeviceDump.Text.Basic

namespace DeviceDump

/-- the name of a field -/
abbrev Name := Text

/-- how a field's value is written in a dump -/
inductive Kind where
  /-- hexadecimal digits, kept as they are -/
  | hex
  /-- 7-bit text, written as pairs of hexadecimal digits -/
  | ascii
  /-- a base-10 integer -/
  | integer
  deriving DecidableEq

/-- a kind as it is named in a table -/
def Kind.name : Kind → Text
  | .hex => "hex"
  | .ascii => "ascii"
  | .integer => "integer"

namespace Field

def version : Name := "version"
def type : Name := "type"
def tokenLength : Name := "token_len"
def code : Name := "code"
def messageId : Name := "message_id"
def token : Name := "token"
def uriPath : Name := "uri_path"
def uriQuery : Name := "uri_query"
def contentFormat : Name := "content_format"
def payload : Name := "payload"

/-- the fields that every message must carry, in the order in which they are looked for -/
def required : List Name := [version, type, tokenLength, code, messageId, token, uriPath, contentFormat]

/-- the kind that belongs to a name -/
def kind (name : Name) : Kind :=
  if name = payload then .hex else if name = uriPath ∨ name = uriQuery then .ascii else .integer

end Field

end DeviceDump
