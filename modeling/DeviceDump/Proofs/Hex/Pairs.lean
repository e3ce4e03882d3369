/-
Pairs of digits, read strictly. What is looked at is the UTF-8 form of a text: first whether it has an even number of
bytes, then byte by byte whether each is a digit (`DigitByte`). So there are three outcomes, of which every text has
one.
- `decode_of_odd`: an odd number of bytes is reported before anything else.
- `decode_of_bad`: else the first byte that is no digit is, with its position.
- `decode_of_digits`: else the text consists of digits, and its pairs are worth the bytes (`pairValues`).
- `encode_pairValues`: these bytes are written as the digits were, in lower case.
-/
import DeviceDump.Hex.Pairs
import DeviceDump.Proofs.Hex.Numeral
import DeviceDump.Proofs.Text.SevenBit

namespace DeviceDump.Hex

/-! ## Bytes that are digits -/

/-- the code of a hexadecimal digit, of either letter case -/
def DigitByte (b : UInt8) : Prop :=
  (0x30 ≤ b.toNat ∧ b.toNat ≤ 0x39) ∨ (0x61 ≤ b.toNat ∧ b.toNat ≤ 0x66) ∨ (0x41 ≤ b.toNat ∧ b.toNat ≤ 0x46)

instance (b : UInt8) : Decidable (DigitByte b) := by unfold DigitByte; infer_instance

theorem isDigit_ofUInt8_iff {b : UInt8} : isDigit (Char.ofUInt8 b) = true ↔ DigitByte b := by
  rw [isDigit_iff, DigitByte, ← Text.toNat_ofUInt8 b]
  rfl

/-- A digit has a value below sixteen, wherever it stands. -/
theorem digitAt_of_digitByte {b : UInt8} (h : DigitByte b) (position : Nat) :
    ∃ d < 16, digitAt b position = .ok d := by
  obtain ⟨d, hlt, hd, -⟩ := digit_of_isDigit (isDigit_ofUInt8_iff.2 h)
  exact ⟨d, hlt, by rw [digitAt, hd]⟩

theorem digitAt_of_not_digitByte {b : UInt8} (h : ¬ DigitByte b) (position : Nat) :
    digitAt b position = .error (.notDigit b position) := by
  have hnone : digit? (Char.ofUInt8 b) = none := by
    rw [← isDigit_ofUInt8_iff, isDigit] at h
    simpa using h
  rw [digitAt, hnone]

/-- Bytes are digits all of them, or there is a first one that is none. -/
theorem forall_digitByte_or_exists (bytes : List UInt8) : (∀ b ∈ bytes, DigitByte b) ∨
    ∃ before byte after, bytes = before ++ byte :: after ∧ (∀ b ∈ before, DigitByte b) ∧ ¬ DigitByte byte := by
  induction bytes with
  | nil => exact Or.inl (by simp)
  | cons first rest ih =>
    by_cases hf : DigitByte first
    · rcases ih with hall | ⟨before, byte, after, rfl, hb, hn⟩
      · exact Or.inl (List.forall_mem_cons.2 ⟨hf, hall⟩)
      · exact Or.inr ⟨first :: before, byte, after, rfl, List.forall_mem_cons.2 ⟨hf, hb⟩, hn⟩
    · exact Or.inr ⟨[], first, rest, rfl, by simp, hf⟩

/-! ## What pairs are worth -/

/-- what the pairs of digits in a text are worth, in order -/
def pairValues : Text → List Nat
  | high :: low :: rest => value [high, low] :: pairValues rest
  | _ => []

/-- Two digits are worth sixteen times the first and once the second. -/
theorem value_pair {high low : Char} (hh : isDigit high = true) (hl : isDigit low = true) :
    ∃ h < 16, ∃ l < 16, value [high, low] = 16 * h + l ∧ digit? high = some h ∧ digit? low = some l ∧
      high.toLower = Nat.digitChar h ∧ low.toLower = Nat.digitChar l := by
  obtain ⟨h, hlt, hd, hlower, -⟩ := digit_of_isDigit hh
  obtain ⟨l, llt, ld, llower, -⟩ := digit_of_isDigit hl
  exact ⟨h, hlt, l, llt, by simp [value, hd, ld], hd, ld, hlower, llower⟩

theorem lt_of_mem_pairValues {digits : Text} (h : ∀ c ∈ digits, isDigit c = true) {n : Nat}
    (hn : n ∈ pairValues digits) : n < 256 := by
  induction digits using List.twoStepInduction with
  | nil => cases hn
  | singleton c => cases hn
  | cons_cons high low rest ih _ =>
    obtain ⟨d, hlt, e, elt, hv, -⟩ := value_pair (h high (by simp)) (h low (by simp))
    rcases List.mem_cons.1 hn with rfl | hn
    · omega
    · exact ih (fun c hc => h c (by simp [hc])) hn

/-- No pair is worth more than a byte, so nothing is lost where its worth is taken for one. -/
theorem map_toNat_pairValues {digits : Text} (h : ∀ c ∈ digits, isDigit c = true) :
    ((pairValues digits).map UInt8.ofNat).map UInt8.toNat = pairValues digits := by
  rw [List.map_map]
  refine (List.map_congr_left fun n hn => ?_).trans (List.map_id _)
  exact UInt8.toNat_ofNat_of_lt' (lt_of_mem_pairValues h hn)

/-- The bytes that pairs are worth are written as these pairs, in lower case. -/
theorem encode_pairValues {digits : Text} (h : ∀ c ∈ digits, isDigit c = true) (he : digits.length % 2 = 0) :
    encode ((pairValues digits).map UInt8.ofNat) = digits.map Char.toLower := by
  induction digits using List.twoStepInduction with
  | nil => rfl
  | singleton c => simp at he
  | cons_cons high low rest ih _ =>
    obtain ⟨d, hlt, e, elt, hv, -, -, hhigh, hlow⟩ := value_pair (h high (by simp)) (h low (by simp))
    have hpair : byteText (UInt8.ofNat (value [high, low])) = [high.toLower, low.toLower] := by
      have hn : (UInt8.ofNat (value [high, low])).toNat = 16 * d + e := by
        rw [hv, UInt8.toNat_ofNat']
        omega
      rw [byteText, hn, hhigh, hlow, show (16 * d + e) / 16 = d by omega, show (16 * d + e) % 16 = e by omega]
    have hrest := ih (fun c hc => h c (by simp [hc])) (by simp at he; omega)
    rw [encode] at hrest ⊢
    rw [pairValues, List.map_cons, List.flatMap_cons, hpair, hrest]
    rfl

/-! ## Reading -/

/-- A text whose bytes are digits is a text of digits, one byte each. -/
theorem isDigit_of_digitBytes {t : Text} (h : ∀ b ∈ t.utf8, DigitByte b) :
    t.utf8.length = t.length ∧ ∀ c ∈ t, isDigit c = true := by
  have hseven : ∀ c ∈ t, c.toNat < 0x80 := by
    rw [← Text.forall_mem_utf8_lt_iff]
    intro b hb
    have := h b hb
    unfold DigitByte at this
    omega
  have hbytes := Text.utf8_of_forall hseven
  rw [hbytes] at h ⊢
  refine ⟨List.length_map _, fun c hc => ?_⟩
  have hdigit := h _ (List.mem_map_of_mem hc)
  rwa [← isDigit_ofUInt8_iff, Text.ofUInt8_ofNat_toNat (hseven c hc)] at hdigit

theorem decodeFrom_of_digits {digits : Text} (h : ∀ c ∈ digits, isDigit c = true) (he : digits.length % 2 = 0)
    (position : Nat) :
    decodeFrom position (digits.map fun c => UInt8.ofNat c.toNat) = .ok ((pairValues digits).map UInt8.ofNat) := by
  induction digits using List.twoStepInduction generalizing position with
  | nil => rfl
  | singleton c => simp at he
  | cons_cons high low rest ih _ =>
    have hh := h high (by simp)
    have hl := h low (by simp)
    obtain ⟨d, hlt, e, elt, hv, hd, hde, -⟩ := value_pair hh hl
    have hhigh : ∀ p, digitAt (UInt8.ofNat high.toNat) p = .ok d := by
      intro p
      rw [digitAt, Text.ofUInt8_ofNat_toNat (toNat_lt_of_isDigit hh), hd]
    have hlow : ∀ p, digitAt (UInt8.ofNat low.toNat) p = .ok e := by
      intro p
      rw [digitAt, Text.ofUInt8_ofNat_toNat (toNat_lt_of_isDigit hl), hde]
    have hrest := ih (fun c hc => h c (by simp [hc])) (by simp at he; omega) (position + 2)
    rw [List.map_cons, List.map_cons, decodeFrom, hhigh, hlow, hrest, pairValues, List.map_cons, hv]
    rfl

/-- The first byte that is no digit ends the reading, with its position. -/
theorem decodeFrom_of_bad {before after : List UInt8} {byte : UInt8} (hb : ∀ b ∈ before, DigitByte b)
    (hn : ¬ DigitByte byte) (he : (before ++ byte :: after).length % 2 = 0) (position : Nat) :
    decodeFrom position (before ++ byte :: after) = .error (.notDigit byte (position + before.length)) := by
  induction before using List.twoStepInduction generalizing position with
  | nil =>
    cases after with
    | nil => simp at he
    | cons low rest =>
      rw [List.nil_append, decodeFrom, digitAt_of_not_digitByte hn]
      rfl
  | singleton first =>
    obtain ⟨d, -, hd⟩ := digitAt_of_digitByte (hb first (by simp)) position
    rw [List.singleton_append, decodeFrom, hd, digitAt_of_not_digitByte hn]
    rfl
  | cons_cons high low rest ih _ =>
    obtain ⟨d, -, hd⟩ := digitAt_of_digitByte (hb high (by simp)) position
    obtain ⟨e, -, hde⟩ := digitAt_of_digitByte (hb low (by simp)) (position + 1)
    have hrest := ih (fun b hm => hb b (by simp [hm])) (by simp at he ⊢; omega) (position + 2)
    rw [List.cons_append, List.cons_append, decodeFrom, hd, hde, hrest, List.length_cons, List.length_cons,
      Nat.add_assoc, Nat.add_comm 2]
    rfl

variable {t : Text}

/-- **An odd number of bytes is reported first.** -/
theorem decode_of_odd (h : t.utf8.length % 2 = 1) : decode t = .error .oddLength := if_pos h

/-- **Else the first byte that is no digit is reported.** -/
theorem decode_of_bad (h : t.utf8.length % 2 = 0) {before after : List UInt8} {byte : UInt8}
    (hs : t.utf8 = before ++ byte :: after) (hb : ∀ b ∈ before, DigitByte b) (hn : ¬ DigitByte byte) :
    decode t = .error (.notDigit byte before.length) := by
  rw [decode, if_neg (by omega)]
  rw [hs] at h ⊢
  rw [decodeFrom_of_bad hb hn h, Nat.zero_add]

/-- **Else the text is read as what its pairs are worth.** -/
theorem decode_of_digits (h : t.utf8.length % 2 = 0) (hd : ∀ b ∈ t.utf8, DigitByte b) :
    decode t = .ok ((pairValues t).map UInt8.ofNat) := by
  obtain ⟨hlen, hdigits⟩ := isDigit_of_digitBytes hd
  have hbytes := Text.utf8_of_forall fun c hc => toNat_lt_of_isDigit (hdigits c hc)
  rw [decode, if_neg (by omega), hbytes, decodeFrom_of_digits hdigits (by omega)]

example : decode "7zé".toList = .error (.notDigit 0x7A 1) ∧ decode "7aé7".toList = .error .oddLength := by decide

end DeviceDump.Hex
