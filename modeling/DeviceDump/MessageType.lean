/-
The message types that the `type` field can name, each with its code and its label. Codes outside the four have no
type and the label `unknown`.
-/
import DeviceDump.Text.Decimal

namespace DeviceDump

inductive MessageType where
  | confirmable
  | nonConfirmable
  | acknowledgement
  | reset
  deriving DecidableEq

namespace MessageType

def code : MessageType → Int64
  | .confirmable => 0
  | .nonConfirmable => 1
  | .acknowledgement => 2
  | .reset => 3

def label : MessageType → Text
  | .confirmable => "Confirmable (CON)"
  | .nonConfirmable => "Non-confirmable (NON)"
  | .acknowledgement => "Acknowledgement (ACK)"
  | .reset => "Reset (RST)"

/-- the type with a given code -/
def ofCode? (code : Int64) : Option MessageType :=
  if code = 0 then some .confirmable
  else if code = 1 then some .nonConfirmable
  else if code = 2 then some .acknowledgement
  else if code = 3 then some .reset
  else none

/-- the code and the label -/
def display (t : MessageType) : Text := Text.Decimal.ofWord t.code ++ ": '" ++ t.label ++ "'"

/-- the label of a code, whether or not a type has it -/
def labelOf (code : Int64) : Text :=
  match ofCode? code with
  | some t => t.label
  | none => "unknown"

theorem ofCode?_code (t : MessageType) : ofCode? t.code = some t := by cases t <;> decide

end MessageType

end DeviceDump
