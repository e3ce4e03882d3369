/-
7-bit text and its bytes. A character below U+0080 takes one byte, its code; every other character takes several, the
last of which is 0x80 or more. So a text is 7-bit just if its bytes are (`forall_mem_utf8_lt_iff`), and then text and
bytes are recovered from each other, code by code (`map_ofUInt8_utf8`, `utf8_map_ofUInt8`).
-/
import DeviceDump.Text.Basic
import Mathlib.Tactic

namespace DeviceDump.Text

/-! ## Single characters -/

theorem utf8EncodeChar_of_lt {c : Char} (h : c.toNat < 0x80) : String.utf8EncodeChar c = [UInt8.ofNat c.toNat] := by
  have hc : c.val.toNat ≤ 127 := Nat.le_of_lt_succ h
  unfold String.utf8EncodeChar
  rw [if_pos hc]
  rfl

/-- Every longer form ends with a byte that carries the last six bits. -/
theorem exists_mem_utf8EncodeChar_of_le {c : Char} (h : 0x80 ≤ c.toNat) :
    ∃ b ∈ String.utf8EncodeChar c, 0x80 ≤ b.toNat := by
  have hc : ¬ c.val.toNat ≤ 127 := Nat.not_le_of_lt h
  refine ⟨UInt8.ofNat (c.val.toNat % 64 + 128), ?_, ?_⟩
  · unfold String.utf8EncodeChar
    rw [if_neg hc]
    split_ifs <;> simp
  · rw [UInt8.toNat_ofNat']
    omega

theorem toNat_ofNat_toNat {c : Char} (h : c.toNat < 0x80) : (UInt8.ofNat c.toNat).toNat = c.toNat := by
  rw [UInt8.toNat_ofNat']
  omega

theorem toNat_ofUInt8 (b : UInt8) : (Char.ofUInt8 b).toNat = b.toNat := UInt8.toNat_toUInt32 b

/-- A code below 0x80 is the byte of its character. -/
theorem ofUInt8_ofNat_toNat {c : Char} (h : c.toNat < 0x80) : Char.ofUInt8 (UInt8.ofNat c.toNat) = c := by
  apply Char.toNat_inj.1
  rw [toNat_ofUInt8, toNat_ofNat_toNat h]

theorem ofNat_toNat_ofUInt8 (b : UInt8) : UInt8.ofNat (Char.ofUInt8 b).toNat = b := by
  rw [toNat_ofUInt8, UInt8.ofNat_toNat]

/-! ## Whole texts -/

variable {t : Text} {bytes : List UInt8}

theorem utf8_of_forall (h : ∀ c ∈ t, c.toNat < 0x80) : t.utf8 = t.map fun c => UInt8.ofNat c.toNat := by
  induction t with
  | nil => rfl
  | cons c rest ih =>
    have hc := utf8EncodeChar_of_lt (h c List.mem_cons_self)
    have hrest := ih fun d hd => h d (List.mem_cons_of_mem c hd)
    rw [Text.utf8, List.flatMap_cons, hc, List.map_cons, ← hrest]
    rfl

/-- A text is 7-bit just if its bytes are. -/
theorem forall_mem_utf8_lt_iff : (∀ b ∈ t.utf8, b.toNat < 0x80) ↔ ∀ c ∈ t, c.toNat < 0x80 := by
  constructor
  · intro h c hc
    by_contra hge
    obtain ⟨b, hb, hle⟩ := exists_mem_utf8EncodeChar_of_le (Nat.le_of_not_lt hge)
    have := h b (List.mem_flatMap.2 ⟨c, hc, hb⟩)
    omega
  · intro h b hb
    rw [utf8_of_forall h] at hb
    obtain ⟨c, hc, rfl⟩ := List.mem_map.1 hb
    rw [toNat_ofNat_toNat (h c hc)]
    exact h c hc

/-- 7-bit text is recovered from its bytes. -/
theorem map_ofUInt8_utf8 (h : ∀ c ∈ t, c.toNat < 0x80) : t.utf8.map Char.ofUInt8 = t := by
  rw [utf8_of_forall h, List.map_map]
  exact (List.map_congr_left fun c hc => ofUInt8_ofNat_toNat (h c hc)).trans (List.map_id t)

/-- 7-bit bytes are recovered from their text. -/
theorem utf8_map_ofUInt8 (h : ∀ b ∈ bytes, b.toNat < 0x80) : Text.utf8 (bytes.map Char.ofUInt8) = bytes := by
  rw [utf8_of_forall, List.map_map]
  · exact (List.map_congr_left fun b _ => ofNat_toNat_ofUInt8 b).trans (List.map_id bytes)
  · intro c hc
    obtain ⟨b, hb, rfl⟩ := List.mem_map.1 hc
    rw [toNat_ofUInt8]
    exact h b hb

end DeviceDump.Text
