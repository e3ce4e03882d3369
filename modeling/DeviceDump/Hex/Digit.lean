/-
Hexadecimal digits: which characters are digits, what a run of digits is worth, and how a byte is written.

Both letter cases are read, lower case is written. A run of digits is worth a natural number of any size.
-/
import DeviceDump.Text.Basic

namespace DeviceDump.Hex

/-- the value of a digit of either letter case -/
def digit? (c : Char) : Option Nat :=
  if '0' ≤ c ∧ c ≤ '9' then some (c.toNat - 48)
  else if 'a' ≤ c ∧ c ≤ 'f' then some (c.toNat - 87)
  else if 'A' ≤ c ∧ c ≤ 'F' then some (c.toNat - 55)
  else none

/-- a digit of either letter case -/
def isDigit (c : Char) : Bool := (digit? c).isSome

/-- what a run of digits is worth -/
def value (digits : Text) : Nat := digits.foldl (fun n c => 16 * n + (digit? c).getD 0) 0

/-- a byte in two lower-case digits -/
def byteText (b : UInt8) : Text := [Nat.digitChar (b.toNat / 16), Nat.digitChar (b.toNat % 16)]

@[simp] theorem length_byteText (b : UInt8) : (byteText b).length = 2 := rfl

theorem digit?_digitChar {n : Nat} (h : n < 16) : digit? (Nat.digitChar n) = some n :=
  (by decide : ∀ n ∈ List.range 16, digit? (Nat.digitChar n) = some n) n (List.mem_range.2 h)

/-- A written byte is worth that byte. -/
theorem value_byteText (b : UInt8) : value (byteText b) = b.toNat := by
  have hb : b.toNat < 256 := b.toNat_lt
  simp only [value, byteText, List.foldl_cons, List.foldl_nil, digit?_digitChar (show b.toNat / 16 < 16 by omega),
    digit?_digitChar (show b.toNat % 16 < 16 by omega), Option.getD_some]
  omega

end DeviceDump.Hex
