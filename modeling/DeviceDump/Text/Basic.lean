/-
Text as the whole library handles it: a list of characters, so that every rule on it is a list function.

`String` appears in literals, which coerce to text, and at the outer edge of the program. Beside the type stand what
every module needs: `line` and `lineSeq` end texts with newlines, `pieces` cuts a text at separators and drops empty
pieces, `inRanges` reads a table of code points. `pieces_append_separator`: cutting at a separator first changes
nothing.

The lines of a text: a newline ends a line, and one carriage return directly before that newline belongs to the ending.
What follows the last newline is a line too, unless it is empty; a carriage return at its end is kept, since no newline
follows it.

Text as bytes: every character has one UTF-8 form of one to four bytes; a sequence of bytes is text exactly when it is
the concatenation of such forms.
-/
namespace DeviceDump

/-- a text, character by character -/
abbrev Text := List Char

scoped instance : Coe String Text := ⟨String.toList⟩

namespace Text

/-! ## Putting together and cutting -/

/-- a text ended by a newline -/
def line (t : Text) : Text := t ++ ['\n']

/-- texts one after the other, each ended by a newline -/
def lineSeq (ts : List Text) : Text := ts.flatMap line

/-- the pieces between separators, empty ones dropped -/
def pieces (isSeparator : Char → Bool) (t : Text) : List Text :=
  (t.splitOnP isSeparator).filter (!·.isEmpty)

/-- the code points covered by a list of ranges, both ends included -/
def inRanges (ranges : List (Nat × Nat)) (c : Char) : Bool :=
  ranges.any fun r => r.1 ≤ c.toNat && c.toNat ≤ r.2

/-- At a separator the pieces of a text are the pieces before it followed by the pieces after it. -/
theorem pieces_append_separator {isSeparator : Char → Bool} {c : Char} (h : isSeparator c = true) (a b : Text) :
    pieces isSeparator (a ++ c :: b) = pieces isSeparator a ++ pieces isSeparator b := by
  simp [pieces, List.splitOnP_append_cons a b h]

@[simp] theorem pieces_nil (isSeparator : Char → Bool) : pieces isSeparator [] = [] := rfl

@[simp] theorem lineSeq_cons (t : Text) (ts : List Text) : lineSeq (t :: ts) = line t ++ lineSeq ts := rfl

/-! ## Lines -/

/-- without the one carriage return at the end -/
def chomp (t : Text) : Text := if t.getLast? = some '\r' then t.dropLast else t

/-- the lines, from the pieces between newlines: all but the last were ended by one -/
def endedLines : List Text → List Text
  | [] => []
  | [last] => if last.isEmpty then [] else [last]
  | t :: u :: rest => chomp t :: endedLines (u :: rest)

/-- the lines of a text -/
def lines (t : Text) : List Text := endedLines (t.splitOnP (· == '\n'))

/-- the lines of a text, each with its number, counted from one -/
def numberedLines (t : Text) : List (Text × Nat) := (lines t).zipIdx 1

@[simp] theorem lines_nil : lines [] = [] := rfl

/-! ## Bytes -/

/-- the UTF-8 form of a text -/
def utf8 (t : Text) : List UInt8 := t.flatMap String.utf8EncodeChar

/-- the text that a sequence of bytes is the UTF-8 form of, if there is one -/
def ofUtf8? (bytes : ByteArray) : Option Text := (String.fromUTF8? bytes).map String.toList

end Text

end DeviceDump
