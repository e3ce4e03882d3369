/-
Bytes as unbroken pairs of hexadecimal digits, two per byte.

Reading is strict and works on the UTF-8 form of the text: the number of bytes must be even, which is checked first,
and every byte must be a digit. A byte that is none is reported with its position, as the character of that code
point. `decode_encode`: what is written is read back.
-/
import DeviceDump.Hex.Digit
import DeviceDump.Text.Decimal
import DeviceDump.Text.Quoted

namespace DeviceDump.Hex

/-- why a text is not a sequence of pairs -/
inductive PairError where
  | oddLength
  | notDigit (byte : UInt8) (position : Nat)
  deriving DecidableEq

def PairError.message : PairError → Text
  | .oddLength => "Odd number of digits"
  | .notDigit byte position =>
    "Invalid character " ++ Text.Quoted.ofChar (Char.ofUInt8 byte) ++ " at position " ++ Text.Decimal.ofNat position

/-- bytes as pairs of lower-case digits -/
def encode (bytes : List UInt8) : Text := bytes.flatMap byteText

/-- the value of the digit at a position -/
def digitAt (byte : UInt8) (position : Nat) : Except PairError Nat :=
  match digit? (Char.ofUInt8 byte) with
  | some n => .ok n
  | none => .error (.notDigit byte position)

/-- the pairs from a position on -/
def decodeFrom (position : Nat) : List UInt8 → Except PairError (List UInt8)
  | [] => .ok []
  | [_] => .error .oddLength
  | high :: low :: rest => do
    let h ← digitAt high position
    let l ← digitAt low (position + 1)
    let bytes ← decodeFrom (position + 2) rest
    return UInt8.ofNat (16 * h + l) :: bytes

/-- the bytes that a text holds as pairs of digits -/
def decode (t : Text) : Except PairError (List UInt8) :=
  if t.utf8.length % 2 = 1 then .error .oddLength else decodeFrom 0 t.utf8

/-! ## Reading what was written -/

/-- A written digit takes one byte, which is read as the digit. -/
theorem utf8_digitChar {n : Nat} (h : n < 16) :
    ∃ byte, String.utf8EncodeChar (Nat.digitChar n) = [byte] ∧ ∀ position, digitAt byte position = .ok n := by
  have hs : ∀ n ∈ List.range 16, String.utf8EncodeChar (Nat.digitChar n) = [UInt8.ofNat (Nat.digitChar n).toNat] ∧
      digit? (Char.ofUInt8 (UInt8.ofNat (Nat.digitChar n).toNat)) = some n := by decide
  obtain ⟨h₁, h₂⟩ := hs n (List.mem_range.2 h)
  exact ⟨_, h₁, fun position => by simp [digitAt, h₂]⟩

/-- A written byte takes two bytes, which are read as that byte. -/
theorem utf8_byteText (b : UInt8) :
    ∃ high low, Text.utf8 (byteText b) = [high, low] ∧
      (∀ position, digitAt high position = .ok (b.toNat / 16)) ∧
      ∀ position, digitAt low position = .ok (b.toNat % 16) := by
  have hb : b.toNat < 256 := b.toNat_lt
  obtain ⟨high, h₁, h₂⟩ := utf8_digitChar (show b.toNat / 16 < 16 by omega)
  obtain ⟨low, h₃, h₄⟩ := utf8_digitChar (show b.toNat % 16 < 16 by omega)
  exact ⟨high, low, by simp [Text.utf8, byteText, h₁, h₃], h₂, h₄⟩

/-- The pairs are ASCII, two bytes for each byte written. -/
theorem length_utf8_encode (bytes : List UInt8) : (encode bytes).utf8.length = 2 * bytes.length := by
  induction bytes with
  | nil => rfl
  | cons b rest ih =>
    obtain ⟨high, low, h, -, -⟩ := utf8_byteText b
    have : (encode (b :: rest)).utf8 = (byteText b).utf8 ++ (encode rest).utf8 := by simp [encode, Text.utf8]
    simp only [this, h, List.length_append, List.length_cons, List.length_nil, ih]
    omega

theorem decodeFrom_encode (bytes : List UInt8) (position : Nat) :
    decodeFrom position (encode bytes).utf8 = .ok bytes := by
  induction bytes generalizing position with
  | nil => rfl
  | cons b rest ih =>
    obtain ⟨high, low, h, h₁, h₂⟩ := utf8_byteText b
    have h₃ : (encode (b :: rest)).utf8 = high :: low :: (encode rest).utf8 := by
      simp only [encode, List.flatMap_cons, Text.utf8, List.flatMap_append]
      exact congrArg (· ++ _) h
    rw [h₃, decodeFrom, h₁, h₂, ih]
    have h₄ : 16 * (b.toNat / 16) + b.toNat % 16 = b.toNat := by omega
    simp [bind, Except.bind, pure, Except.pure, h₄]

theorem decode_encode (bytes : List UInt8) : decode (encode bytes) = .ok bytes := by
  rw [decode, length_utf8_encode, if_neg (by omega), decodeFrom_encode]

end DeviceDump.Hex
