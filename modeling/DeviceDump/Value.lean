/-
Field values: how one is shown, how it is written in a dump, and how it is read from one.

`Value.dumped` and `Value.decode` are separate: what a field's text means depends on the field's name alone, not on
the value that was written. Hexadecimal values are kept as they are; 7-bit text may be written with blanks between its
digits; an integer is a literal of 64 bits with a sign.
-/
import DeviceDump.Field
import DeviceDump.Hex.Pairs
import DeviceDump.Json
import DeviceDump.Text.Blank

namespace DeviceDump

/-- the value of a field, by kind -/
inductive Value where
  /-- hexadecimal digits, not looked into -/
  | hex (digits : Text)
  /-- text that was written as pairs of digits -/
  | ascii (t : Text)
  | integer (n : Int64)
  deriving DecidableEq

/-- why a dump cannot be read -/
inductive DumpError where
  /-- a line without a colon -/
  | malformedLine (number : Nat) (content : Text)
  /-- a 7-bit text that is not a sequence of pairs of digits -/
  | invalidHex (field : Name) (reason : Hex.PairError)
  /-- a 7-bit text with a byte above 0x7F -/
  | notAscii (field : Name) (raw : Text)
  /-- an integer field that holds no literal, or one outside the range -/
  | invalidInteger (field : Name) (raw : Text)
  deriving DecidableEq

def DumpError.message : DumpError → Text
  | .malformedLine number content =>
    "line " ++ Text.Decimal.ofNat number ++ " is not a 'key:value' pair: '" ++ content ++ "'"
  | .invalidHex field reason => "field '" ++ field ++ "' is not valid hex: " ++ reason.message
  | .notAscii field raw => "field '" ++ field ++ "' does not decode to ASCII text: '" ++ raw ++ "'"
  | .invalidInteger field raw => "field '" ++ field ++ "' is not a base-10 integer: '" ++ raw ++ "'"

namespace Value

def kind : Value → Kind
  | .hex _ => .hex
  | .ascii _ => .ascii
  | .integer _ => .integer

def integer? : Value → Option Int64
  | .integer n => some n
  | _ => none

def text? : Value → Option Text
  | .hex t => some t
  | .ascii t => some t
  | .integer _ => none

/-- the bytes of a hexadecimal value, if its digits are pairs -/
def hexBytes? : Value → Option (Except Hex.PairError (List UInt8))
  | .hex digits => some (Hex.decode digits)
  | _ => none

/-- a value as it is shown -/
def display : Value → Text
  | .hex t => t
  | .ascii t => t
  | .integer n => Text.Decimal.ofWord n

/-- a value as it is written in a dump -/
def dumped : Value → Text
  | .hex digits => digits
  | .ascii t => Hex.encode t.utf8
  | .integer n => Text.Decimal.ofWord n

def json : Value → Json
  | .hex t => .text t
  | .ascii t => .text t
  | .integer n => .integer n.toInt

/-- the 7-bit text that pairs of digits, with blanks anywhere, stand for -/
def decodeAscii (field : Name) (raw : Text) : Except DumpError Value :=
  match Hex.decode raw.withoutBlanks with
  | .error reason => .error (.invalidHex field reason)
  | .ok bytes => if bytes.all (· < 0x80) then .ok (.ascii (bytes.map Char.ofUInt8)) else .error (.notAscii field raw)

/-- the value that a field's text stands for -/
def decode (field : Name) (raw : Text) : Except DumpError Value :=
  match Field.kind field with
  | .hex => .ok (.hex raw)
  | .ascii => decodeAscii field raw
  | .integer =>
    match Text.Decimal.word? raw with
    | some n => .ok (.integer n)
    | none => .error (.invalidInteger field raw)

end Value

end DeviceDump
