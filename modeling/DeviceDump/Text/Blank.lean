/-
White space: which characters are blank, and the three things done about them. `trim` takes blanks off both ends,
`withoutBlanks` takes all of them out, `words` cuts a text at them.

The class is the Unicode property White_Space, 25 characters. It is larger than `Char.isWhitespace`, which knows four
of them: `isBlank_of_isWhitespace` says so.
-/
import DeviceDump.Text.Basic

namespace DeviceDump.Text

/-- the code points of the property White_Space -/
def blankRanges : List (Nat × Nat) :=
  [(0x9, 0xD), (0x20, 0x20), (0x85, 0x85), (0xA0, 0xA0), (0x1680, 0x1680), (0x2000, 0x200A), (0x2028, 0x2029),
    (0x202F, 0x202F), (0x205F, 0x205F), (0x3000, 0x3000)]

example : (blankRanges.map fun r => r.2 + 1 - r.1).foldl (· + ·) 0 = 25 := by decide

/-- white space -/
def isBlank (c : Char) : Bool := inRanges blankRanges c

/-- without the blanks at the start -/
def trimStart (t : Text) : Text := t.dropWhile isBlank

/-- without the blanks at the end -/
def trimEnd (t : Text) : Text := (t.reverse.dropWhile isBlank).reverse

/-- without the blanks at both ends -/
def trim (t : Text) : Text := trimEnd (trimStart t)

/-- without any blank, inner ones included -/
def withoutBlanks (t : Text) : Text := t.filter (!isBlank ·)

/-- the pieces between blanks -/
def words (t : Text) : List Text := pieces isBlank t

theorem isBlank_of_isWhitespace {c : Char} (h : c.isWhitespace = true) : isBlank c = true := by
  simp only [Char.isWhitespace, Bool.or_eq_true, decide_eq_true_eq] at h
  rcases h with ((rfl | rfl) | rfl) | rfl <;> decide

end DeviceDump.Text
