/-
Numbers by their digits, in any base and with any reading of single digits. A number is written without a zero first,
unless it is zero (`head?_toDigits_ne_zero`); and digits without a zero first are those that their number is written
with (`toDigits_numberOf`), so no number has two spellings of that kind.
-/
import DeviceDump.Text.Basic
import Mathlib.Tactic

namespace DeviceDump.Text

variable {b : Nat} {digit : Char → Nat} {t : Text}

/-- the number that digits make up in a base, the first of them counting most -/
def numberOf (b : Nat) (digit : Char → Nat) (t : Text) : Nat := t.foldl (fun n c => b * n + digit c) 0

theorem numberOf_concat (t : Text) (c : Char) : numberOf b digit (t ++ [c]) = b * numberOf b digit t + digit c := by
  simp [numberOf, List.foldl_append]

theorem numberOf_pos (hb : 0 < b) (hne : t ≠ []) (h0 : t.head? ≠ some '0')
    (hzero : ∀ c ∈ t, digit c = 0 → c = '0') : 0 < numberOf b digit t := by
  induction t using List.reverseRecOn with
  | nil => exact absurd rfl hne
  | append_singleton front c ih =>
    rw [numberOf_concat]
    by_cases hf : front = []
    · have hc : digit c ≠ 0 := by
        intro hd
        exact h0 (by rw [hf, hzero c (by simp) hd]; rfl)
      omega
    · rw [List.head?_append_of_ne_nil front hf] at h0
      have hfront := ih hf h0 fun x hx => hzero x (List.mem_append_left _ hx)
      have := Nat.mul_pos hb hfront
      omega

/-- **Digits without a zero first are those of their number.** -/
theorem toDigits_numberOf (hb : 1 < b) (hne : t ≠ []) (h0 : t.head? ≠ some '0') (hlt : ∀ c ∈ t, digit c < b)
    (hzero : ∀ c ∈ t, digit c = 0 → c = '0') :
    Nat.toDigits b (numberOf b digit t) = t.map fun c => Nat.digitChar (digit c) := by
  induction t using List.reverseRecOn with
  | nil => exact absurd rfl hne
  | append_singleton front c ih =>
    have hc : digit c < b := hlt c (by simp)
    rw [numberOf_concat, List.map_append, List.map_singleton, ← Nat.toDigits_of_lt_base hc]
    by_cases hf : front = []
    · simp [hf, numberOf]
    · rw [List.head?_append_of_ne_nil front hf] at h0
      have hltf : ∀ x ∈ front, digit x < b := fun x hx => hlt x (List.mem_append_left _ hx)
      have hzerof : ∀ x ∈ front, digit x = 0 → x = '0' := fun x hx => hzero x (List.mem_append_left _ hx)
      have hpos := numberOf_pos (by omega : 0 < b) hf h0 hzerof
      rw [← ih hf h0 hltf hzerof, Nat.toDigits_append_toDigits hb hpos hc]

/-- A number is written with digits below the base. -/
theorem exists_digitChar_of_mem_toDigits (hb : 1 < b) {n : Nat} {c : Char} (h : c ∈ Nat.toDigits b n) :
    ∃ d < b, c = Nat.digitChar d := by
  induction n using Nat.strongRecOn with
  | ind n ih =>
    rw [Nat.toDigits_eq_if hb] at h
    split_ifs at h with hn
    · exact ⟨n, hn, List.mem_singleton.1 h⟩
    · rcases List.mem_append.1 h with h | h
      · exact ih (n / b) (Nat.div_lt_self (by omega) hb) h
      · exact ⟨n % b, Nat.mod_lt n (by omega), List.mem_singleton.1 h⟩

theorem length_toDigits_eq_one_iff (hb : 1 < b) (n : Nat) : (Nat.toDigits b n).length = 1 ↔ n < b := by
  have hle := Nat.length_toDigits_le_iff (n := n) (k := 1) hb (by decide)
  have hpos : 0 < (Nat.toDigits b n).length := Nat.length_toDigits_pos
  rw [pow_one] at hle
  omega

/-- Only the number zero is written with a zero first. -/
theorem head?_toDigits_ne_zero (hb : 1 < b) {n : Nat} (h : 0 < n) : (Nat.toDigits b n).head? ≠ some '0' := by
  induction n using Nat.strongRecOn with
  | ind n ih =>
    rw [Nat.toDigits_eq_if hb]
    split_ifs with hn
    · simpa using Nat.ne_of_gt h
    · have hlt : n / b < n := Nat.div_lt_self h hb
      have hpos : 0 < n / b := Nat.div_pos (by omega) (by omega)
      rw [List.head?_append_of_ne_nil _ Nat.toDigits_ne_nil]
      exact ih (n / b) hlt hpos

end DeviceDump.Text
