/-
Base-10 integers. A literal is an optional single sign and one or more ASCII digits, with any number of leading zeros;
a written integer has the fewest digits and a minus sign only below zero.

`word?` reads a literal whose value is a signed 64-bit integer; a value outside that range is no word, it does not
wrap. `natural?_ofNat` and `word?_ofWord`: what is written is read back.
-/
import DeviceDump.Text.Basic

namespace DeviceDump.Text.Decimal

/-! ## Writing -/

/-- a natural number with its fewest digits -/
def ofNat (n : Nat) : Text := Nat.toDigits 10 n

/-- an integer, with a minus sign only below zero -/
def ofInt : Int → Text
  | .ofNat n => ofNat n
  | .negSucc n => '-' :: ofNat (n + 1)

/-- a signed 64-bit integer -/
def ofWord (n : Int64) : Text := ofInt n.toInt

/-! ## Reading -/

/-- the value of one or more digits -/
def natural? (t : Text) : Option Nat :=
  if t ≠ [] ∧ t.all Char.isDigit then some (Nat.ofDigitChars 10 t 0) else none

/-- the value of a literal, however large -/
def integer? : Text → Option Int
  | '-' :: t => (natural? t).map fun n => -(n : Int)
  | '+' :: t => (natural? t).map fun n => (n : Int)
  | t => (natural? t).map fun n => (n : Int)

/-- the integers that fit into 64 bits with a sign -/
def InRange (n : Int) : Prop := -9223372036854775808 ≤ n ∧ n ≤ 9223372036854775807

instance (n : Int) : Decidable (InRange n) := by unfold InRange; infer_instance

/-- the value of a literal within the 64-bit range -/
def word? (t : Text) : Option Int64 :=
  (integer? t).bind fun n => if InRange n then some (Int64.ofInt n) else none

/-! ## Reading what was written -/

theorem inRange_toInt (n : Int64) : InRange n.toInt := ⟨n.le_toInt, Int.le_of_lt_add_one n.toInt_lt⟩

theorem natural?_ofNat (n : Nat) : natural? (ofNat n) = some n := by
  simp only [natural?, ofNat, Nat.ofDigitChars_toDigits (by decide : 1 < 10) (Nat.le_refl 10)]
  refine if_pos ⟨Nat.toDigits_ne_nil, List.all_eq_true.2 fun c hc => ?_⟩
  exact Nat.isDigit_of_mem_toDigits (by decide) (by decide) hc

/-- A written number starts with a digit, so with neither sign. -/
theorem integer?_ofNat (n : Nat) : integer? (ofNat n) = some (n : Int) := by
  have h := natural?_ofNat n
  unfold integer?
  split
  · rename_i t ht
    simp [ht, natural?] at h
  · rename_i t ht
    simp [ht, natural?] at h
  · simp [h]

theorem integer?_ofInt (n : Int) : integer? (ofInt n) = some n := by
  cases n with
  | ofNat n => exact integer?_ofNat n
  | negSucc n => simp [ofInt, integer?, natural?_ofNat, Int.negSucc_eq]

theorem word?_ofWord (n : Int64) : word? (ofWord n) = some n := by
  simp [word?, ofWord, integer?_ofInt, inRange_toInt]

end DeviceDump.Text.Decimal
