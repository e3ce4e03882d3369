/-
Text quoted for a reader, so that every character in it can be told apart: between two quotation marks, with a
backslash before a mark and before a backslash, short forms for tab, newline, carriage return and NUL, and the code
point in braces for whatever has no visible form of its own.

The mark is a double quotation mark around a text and a single one around a character; only the mark in use is
escaped.
-/
import DeviceDump.Text.Extending
import DeviceDump.Text.Unprintable

namespace DeviceDump.Text.Quoted

/-- a code point in braces, in lower-case hexadecimal -/
def codePoint (c : Char) : Text := '\\' :: 'u' :: '\x7b' :: (Nat.toDigits 16 c.toNat ++ ['\x7d'])

/-- a character that a reader sees in a place of its own -/
def isSeen (c : Char) : Bool := isPrintable c && !isExtending c && !isIgnorable c

/-- a character as it is written between two marks -/
def char (mark c : Char) : Text :=
  match c with
  | '\x00' => ['\\', '0']
  | '\t' => ['\\', 't']
  | '\n' => ['\\', 'n']
  | '\r' => ['\\', 'r']
  | '\\' => ['\\', '\\']
  | c => if c = mark then ['\\', c] else if isSeen c then [c] else codePoint c

/-- a text between two double marks -/
def ofText (t : Text) : Text := '"' :: (t.flatMap (char '"') ++ ['"'])

/-- a character between two single marks -/
def ofChar (c : Char) : Text := '\'' :: (char '\'' c ++ ['\''])

end DeviceDump.Text.Quoted
