/-
Numbers and the hexadecimal digits that stand for them. A run of digits is worth a number by position
(`value_concat`); its letter case and its leading zeros do not count (`value_dropZeros`, `map_toLower_eq_toDigits`).
Each number has one numeral: its fewest digits in lower case, with a zero before a digit that would stand alone.
- `canonicalDigits_eq_numeral`: the canonical form of digits is the numeral of what they are worth. So it depends on
  nothing else, whatever their number.
- `value_numeral`: a numeral is worth its number, so no two numbers share one.
- `length_numeral_eq_two_iff`, `byteText_eq_numeral`: the bytes are the numbers whose numerals have two digits.
-/
import DeviceDump.Hex.Token
import DeviceDump.Proofs.Text.Blank
import DeviceDump.Proofs.Text.Digits

namespace DeviceDump.Hex

/-! ## Single digits -/

theorem isDigit_iff {c : Char} :
    isDigit c = true ↔ ('0' ≤ c ∧ c ≤ '9') ∨ ('a' ≤ c ∧ c ≤ 'f') ∨ ('A' ≤ c ∧ c ≤ 'F') := by
  unfold isDigit digit?
  split_ifs with h₁ h₂ h₃ <;> simp [*]

theorem toNat_lt_of_isDigit {c : Char} (h : isDigit c = true) : c.toNat < 128 := by
  have bound : ∀ last : Char, c ≤ last → c.toNat ≤ last.toNat := fun last hl => hl
  rcases isDigit_iff.1 h with ⟨-, h⟩ | ⟨-, h⟩ | ⟨-, h⟩
  · exact Nat.lt_of_le_of_lt (bound _ h) (by decide)
  · exact Nat.lt_of_le_of_lt (bound _ h) (by decide)
  · exact Nat.lt_of_le_of_lt (bound _ h) (by decide)

/-- A digit has a value below sixteen and is in lower case the digit that is written for it. No digit separates
tokens, and only one is worth nothing. -/
theorem digit_of_isDigit {c : Char} (h : isDigit c = true) :
    ∃ d < 16, digit? c = some d ∧ c.toLower = Nat.digitChar d ∧ isSeparator c = false ∧ (d = 0 → c = '0') := by
  have table : ∀ n ∈ List.range 128, ∀ d ∈ digit? (Char.ofNat n), d < 16 ∧
      (Char.ofNat n).toLower = Nat.digitChar d ∧ isSeparator (Char.ofNat n) = false ∧
      (d = 0 → Char.ofNat n = '0') := by decide +kernel
  obtain ⟨d, hd⟩ := Option.isSome_iff_exists.1 h
  have hc : Char.ofNat c.toNat = c := Char.ofNat_toNat c
  have ht := table c.toNat (List.mem_range.2 (toNat_lt_of_isDigit h)) d (by rw [hc]; exact hd)
  rw [hc] at ht
  exact ⟨d, ht.1, hd, ht.2⟩

theorem isDigit_digitChar {d : Nat} (h : d < 16) : isDigit (Nat.digitChar d) = true := by
  rw [isDigit, digit?_digitChar h]
  rfl

theorem isSeparator_of_isDigit {c : Char} (h : isDigit c = true) : isSeparator c = false := by
  obtain ⟨_, -, -, -, hs, -⟩ := digit_of_isDigit h
  exact hs

/-! ## Runs of digits -/

theorem value_concat (digits : Text) (c : Char) : value (digits ++ [c]) = 16 * value digits + (digit? c).getD 0 := by
  simp [value, List.foldl_append]

/-- Leading zeros are worth nothing. -/
theorem value_dropZeros (digits : Text) : value (digits.dropWhile (· == '0')) = value digits := by
  induction digits with
  | nil => rfl
  | cons c rest ih =>
    by_cases hc : c = '0'
    · subst hc
      exact ih
    · rw [List.dropWhile_cons_of_neg (by simpa using hc)]

/-- Digits without a leading zero are, in lower case, the digits of the number that they are worth. -/
theorem map_toLower_eq_toDigits {digits : Text} (hne : digits ≠ []) (h0 : digits.head? ≠ some '0')
    (h : ∀ c ∈ digits, isDigit c = true) : digits.map Char.toLower = Nat.toDigits 16 (value digits) := by
  have hdigit : ∀ c ∈ digits, (digit? c).getD 0 < 16 ∧ c.toLower = Nat.digitChar ((digit? c).getD 0) ∧
      ((digit? c).getD 0 = 0 → c = '0') := by
    intro c hc
    obtain ⟨d, hlt, hd, hlower, -, hzero⟩ := digit_of_isDigit (h c hc)
    rw [hd]
    exact ⟨hlt, hlower, hzero⟩
  calc digits.map Char.toLower
      = digits.map fun c => Nat.digitChar ((digit? c).getD 0) := List.map_congr_left fun c hc => (hdigit c hc).2.1
    _ = Nat.toDigits 16 (Text.numberOf 16 (fun c => (digit? c).getD 0) digits) :=
      (Text.toDigits_numberOf (by decide) hne h0 (fun c hc => (hdigit c hc).1) fun c hc => (hdigit c hc).2.2).symm
    _ = Nat.toDigits 16 (value digits) := rfl

theorem value_toDigits (n : Nat) : value (Nat.toDigits 16 n) = n := by
  induction n using Nat.strongRecOn with
  | ind n ih =>
    rw [Nat.toDigits_eq_if (by decide)]
    split_ifs with hn
    · simp [value, digit?_digitChar hn]
    · have hd : n % 16 < 16 := Nat.mod_lt n (by decide)
      rw [value_concat, ih (n / 16) (by omega), digit?_digitChar hd, Option.getD_some]
      omega

/-! ## Numerals -/

/-- the numeral of a number: its digits, with a zero before one that would stand alone -/
def numeral (n : Nat) : Text := if n < 16 then '0' :: Nat.toDigits 16 n else Nat.toDigits 16 n

/-- A numeral is worth its number. -/
theorem value_numeral (n : Nat) : value (numeral n) = n := by
  unfold numeral
  split_ifs
  · exact value_toDigits n
  · exact value_toDigits n

theorem exists_digitChar_of_mem_numeral {n : Nat} {c : Char} (h : c ∈ numeral n) : ∃ d < 16, c = Nat.digitChar d := by
  unfold numeral at h
  split_ifs at h
  · rcases List.mem_cons.1 h with rfl | h
    · exact ⟨0, by decide, rfl⟩
    · exact Text.exists_digitChar_of_mem_toDigits (by decide) h
  · exact Text.exists_digitChar_of_mem_toDigits (by decide) h

theorem isDigit_of_mem_numeral {n : Nat} {c : Char} (h : c ∈ numeral n) : isDigit c = true := by
  obtain ⟨d, hd, rfl⟩ := exists_digitChar_of_mem_numeral h
  exact isDigit_digitChar hd

/-- A numeral has the digits of its number, but never a single one. -/
theorem length_numeral (n : Nat) : (numeral n).length = max 2 (Nat.toDigits 16 n).length := by
  have hone := Text.length_toDigits_eq_one_iff (b := 16) (by decide) n
  have hpos : 0 < (Nat.toDigits 16 n).length := Nat.length_toDigits_pos
  unfold numeral
  split_ifs with hn
  · rw [List.length_cons]
    omega
  · omega

theorem two_le_length_numeral (n : Nat) : 2 ≤ (numeral n).length := by
  rw [length_numeral]
  exact le_max_left 2 _

/-- A numeral has two digits if its number fits into a byte, and more otherwise. -/
theorem length_numeral_eq_two_iff (n : Nat) : (numeral n).length = 2 ↔ n < 256 := by
  have htwo := Nat.length_toDigits_le_iff (b := 16) (n := n) (k := 2) (by decide) (by decide)
  rw [length_numeral, max_eq_left_iff, htwo]

/-- A byte is written as its numeral. -/
theorem byteText_eq_numeral (b : UInt8) : byteText b = numeral b.toNat := by
  have hb : b.toNat / 16 < 16 := by
    have := b.toNat_lt
    omega
  unfold byteText numeral
  split_ifs with hn
  · rw [Nat.toDigits_of_lt_base hn, Nat.div_eq_of_lt hn, Nat.mod_eq_of_lt hn]
    rfl
  · rw [Nat.toDigits_of_base_le (by decide) (by omega), Nat.toDigits_of_lt_base hb]
    rfl

/-- **The canonical form of digits is the numeral of what they are worth.** -/
theorem canonicalDigits_eq_numeral {digits : Text} (h : ∀ c ∈ digits, isDigit c = true) :
    canonicalDigits digits = numeral (value digits) := by
  rw [← value_dropZeros digits]
  have hrest : ∀ c ∈ digits.dropWhile (· == '0'), isDigit c = true := fun c hc =>
    h c ((List.dropWhile_suffix _).subset hc)
  have hhead : (digits.dropWhile (· == '0')).head? ≠ some '0' := by
    intro hz
    have := List.head?_dropWhile_not (· == '0') digits
    rw [hz] at this
    simp at this
  unfold canonicalDigits
  generalize digits.dropWhile (· == '0') = rest at hrest hhead ⊢
  by_cases hne : rest = []
  · subst hne
    rfl
  · have hlower := map_toLower_eq_toDigits hne hhead hrest
    have hlen : (Nat.toDigits 16 (value rest)).length = rest.length := by rw [← hlower, List.length_map]
    have hone := Text.length_toDigits_eq_one_iff (b := 16) (by decide) (value rest)
    unfold numeral
    rw [hlower]
    -- a lone digit is one below sixteen
    split
    · rename_i hnil
      exact absurd hnil Nat.toDigits_ne_nil
    · rename_i d hd
      rw [hd] at hone
      rw [if_pos (hone.1 rfl), hd]
    · rename_i ds hnil hsingle
      have : ¬ value rest < 16 := by
        intro hlt
        rw [Nat.toDigits_of_lt_base hlt] at hsingle
        exact hsingle _ rfl
      rw [if_neg this]

example : numeral 0 = ['0', '0'] ∧ numeral 0xb4 = ['b', '4'] ∧ numeral 0x100 = ['1', '0', '0'] := by decide

end DeviceDump.Hex
