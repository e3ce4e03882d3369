/-
Lists of hexadecimal tokens as people write them, and their canonical form.

Tokens stand between commas and blanks in any number. A token may start with one `0x` or `0X`; the rest of it, its
digits, must be one or more hexadecimal digits. The canonical form of a token is its digits in lower case, without
leading zeros but at least two characters long; that of a list is the canonical forms of its tokens with single spaces
between them. Nothing here is limited to a machine word: a token of any length is read, and only where bytes are asked
for must it fit into one.

The first token at fault is the one reported, with its index.
-/
import DeviceDump.Hex.Digit
import DeviceDump.Text.Blank
import DeviceDump.Text.Decimal

namespace DeviceDump.Hex

/-! ## Tokens -/

/-- a comma or a blank -/
def isSeparator (c : Char) : Bool := c == ',' || Text.isBlank c

/-- the tokens of a list -/
def tokens (input : Text) : List Text := Text.pieces isSeparator input

/-- what is wrong with a token; the token is given as it was written, its marker included -/
inductive Fault where
  | empty
  | notHex (token : Text)
  | tooWide (token : Text)
  deriving DecidableEq

/-- a token at fault and its place in the list -/
structure TokenError where
  index : Nat
  fault : Fault
  deriving DecidableEq

def TokenError.message (e : TokenError) : Text :=
  "hex token " ++ Text.Decimal.ofNat e.index ++
    match e.fault with
    | .empty => " is empty"
    | .notHex token => " ('" ++ token ++ "') contains a non-hex digit"
    | .tooWide token => " ('" ++ token ++ "') does not fit in one byte"

/-! ## The canonical form of one token -/

/-- a token without its marker -/
def digitsOf : Text → Text
  | '0' :: 'x' :: digits => digits
  | '0' :: 'X' :: digits => digits
  | token => token

/-- lower case, no leading zero, at least two characters -/
def canonicalDigits (digits : Text) : Text :=
  match (digits.dropWhile (· == '0')).map Char.toLower with
  | [] => ['0', '0']
  | [d] => ['0', d]
  | ds => ds

/-- the canonical form of a token, which may have blanks around it -/
def canonical (token : Text) : Except Fault Text :=
  let token := token.trim
  if token.isEmpty then .error .empty
  else
    let digits := digitsOf token
    if digits.isEmpty || !digits.all isDigit then .error (.notHex token) else .ok (canonicalDigits digits)

/-- the byte that a base-16 literal is worth: one or more digits, perhaps after a plus sign -/
def byteLiteral? (t : Text) : Option UInt8 :=
  let digits :=
    match t with
    | '+' :: digits => digits
    | digits => digits
  if digits ≠ [] ∧ digits.all isDigit ∧ value digits < 256 then some (UInt8.ofNat (value digits)) else none

/-- the byte that a token is worth -/
def byte (token : Text) : Except Fault UInt8 :=
  match canonical token with
  | .error fault => .error fault
  | .ok digits =>
    if 2 < digits.length then .error (.tooWide token)
    else
      match byteLiteral? digits with
      | none => .error (.notHex token)
      | some b => .ok b

/-! ## Whole lists -/

/-- read every token of a list whose first one has the given index; the first fault ends it -/
def readTokens {α : Type} (read : Text → Except Fault α) (index : Nat) : List Text → Except TokenError (List α)
  | [] => .ok []
  | token :: rest =>
    match read token with
    | .error fault => .error ⟨index, fault⟩
    | .ok a => (readTokens read (index + 1) rest).map (a :: ·)

/-- the canonical form of a single token -/
def normalizeToken (token : Text) : Except TokenError Text :=
  match canonical token with
  | .error fault => .error ⟨0, fault⟩
  | .ok digits => .ok digits

/-- the canonical form of a list -/
def normalize (input : Text) : Except TokenError Text :=
  (readTokens canonical 0 (tokens input)).map [' '].intercalate

/-- the bytes that a list is worth, one per token -/
def parseBytes (input : Text) : Except TokenError (List UInt8) := readTokens byte 0 (tokens input)

/-- bytes as a list of canonical tokens -/
def formatBytes (bytes : List UInt8) : Text := [' '].intercalate (bytes.map byteText)

/-- At a separator the tokens of a list are those before it followed by those after it. -/
theorem tokens_append_separator {c : Char} (h : isSeparator c = true) (a b : Text) :
    tokens (a ++ c :: b) = tokens a ++ tokens b :=
  Text.pieces_append_separator h a b

end DeviceDump.Hex
