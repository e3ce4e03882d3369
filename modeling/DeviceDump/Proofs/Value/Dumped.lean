/-
Values as they are written in a dump. An integer is written with digits and perhaps a minus sign, a 7-bit text with
pairs of hexadecimal digits, so neither holds a blank (`isBlank_of_mem_dumped`); a hexadecimal value is written as it
stands.

`decodeAscii_of_encode`: pairs of digits are read as the 7-bit text of their bytes, with blanks among them or without.
`decode_dumped`: under a name of its own kind a value is read back as it was written, a text only if it is 7-bit.
`decode_ok`: what reading can give at all.
-/
import DeviceDump.Proofs.Text.Blank
import DeviceDump.Proofs.Text.SevenBit
import DeviceDump.Value

namespace DeviceDump

/-! ## Characters of written values -/

theorem isBlank_of_mem_encode {bytes : List UInt8} {c : Char} (h : c ∈ Hex.encode bytes) : Text.isBlank c = false := by
  obtain ⟨b, -, hc⟩ := List.mem_flatMap.1 h
  have hb : b.toNat < 256 := b.toNat_lt
  simp only [Hex.byteText, List.mem_cons, List.not_mem_nil, or_false] at hc
  rcases hc with rfl | rfl
  · exact Text.isBlank_digitChar (by omega)
  · exact Text.isBlank_digitChar (by omega)

theorem eq_minus_or_isDigit_of_mem_ofInt {n : Int} {c : Char} (h : c ∈ Text.Decimal.ofInt n) :
    c = '-' ∨ c.isDigit = true := by
  have hdigit : ∀ k : Nat, c ∈ Text.Decimal.ofNat k → c.isDigit = true := fun k hk =>
    Nat.isDigit_of_mem_toDigits (by decide) (by decide) hk
  cases n with
  | ofNat k => exact Or.inr (hdigit k h)
  | negSucc k => exact (List.mem_cons.1 h).imp_right (hdigit (k + 1))

theorem isBlank_of_mem_ofInt {n : Int} {c : Char} (h : c ∈ Text.Decimal.ofInt n) : Text.isBlank c = false := by
  rcases eq_minus_or_isDigit_of_mem_ofInt h with rfl | hd
  · decide
  · exact Text.isBlank_of_isDigit hd

/-- Only a hexadecimal value can be written with a blank in it. -/
theorem isBlank_of_mem_dumped {value : Value} (hk : value.kind ≠ .hex) {c : Char} (h : c ∈ value.dumped) :
    Text.isBlank c = false := by
  cases value with
  | hex digits => exact absurd rfl hk
  | ascii t => exact isBlank_of_mem_encode h
  | integer n => exact isBlank_of_mem_ofInt h

namespace Value

/-! ## Reading a written value -/

theorem all_lt_iff {bytes : List UInt8} : bytes.all (· < 0x80) = true ↔ ∀ b ∈ bytes, b.toNat < 0x80 := by
  simp [List.all_eq_true, UInt8.lt_iff_toNat_lt]

/-- Whatever its blanks, a text of written bytes is read as these, if all of them are 7-bit. -/
theorem decodeAscii_of_encode {raw : Text} {bytes : List UInt8} (h : raw.withoutBlanks = Hex.encode bytes)
    (field : Name) : decodeAscii field raw =
      if bytes.all (· < 0x80) then .ok (.ascii (bytes.map Char.ofUInt8)) else .error (.notAscii field raw) := by
  rw [decodeAscii, h, Hex.decode_encode]

theorem withoutBlanks_encode (bytes : List UInt8) : Text.withoutBlanks (Hex.encode bytes) = Hex.encode bytes :=
  Text.withoutBlanks_of_forall fun _ hc => isBlank_of_mem_encode hc

theorem decodeAscii_encode {t : Text} (h : ∀ c ∈ t, c.toNat < 0x80) (field : Name) :
    decodeAscii field (Hex.encode t.utf8) = .ok (.ascii t) := by
  have hb : t.utf8.all (· < 0x80) = true := all_lt_iff.2 (Text.forall_mem_utf8_lt_iff.2 h)
  rw [decodeAscii_of_encode (withoutBlanks_encode t.utf8), if_pos hb, Text.map_ofUInt8_utf8 h]

/-- **A value is read back as it was written**, given a name of its own kind and, if it is a text, 7 bits per
character. -/
theorem decode_dumped {field : Name} {value : Value} (hk : value.kind = Field.kind field)
    (ht : ∀ t, value = .ascii t → ∀ c ∈ t, c.toNat < 0x80) : decode field value.dumped = .ok value := by
  rw [decode, ← hk]
  cases value with
  | hex digits => rfl
  | ascii t => exact decodeAscii_encode (ht t rfl) field
  | integer n => simp [kind, dumped, Text.Decimal.word?_ofWord]

/-! ## What reading gives -/

theorem decodeAscii_ok {field : Name} {raw : Text} {value : Value} (h : decodeAscii field raw = .ok value) :
    ∃ t : Text, value = .ascii t ∧ ∀ c ∈ t, c.toNat < 0x80 := by
  unfold decodeAscii at h
  split at h
  · cases h
  · rename_i bytes _
    split_ifs at h with hb
    cases h
    refine ⟨_, rfl, fun c hc => ?_⟩
    obtain ⟨b, hm, rfl⟩ := List.mem_map.1 hc
    rw [Text.toNat_ofUInt8]
    exact all_lt_iff.1 hb b hm

/-- What is read is of the kind that the name calls for; hexadecimal digits are kept, and a text is 7-bit. -/
theorem decode_ok {field : Name} {raw : Text} {value : Value} (h : decode field raw = .ok value) :
    value.kind = Field.kind field ∧ (∀ digits, value = .hex digits → digits = raw) ∧
      ∀ t, value = .ascii t → ∀ c ∈ t, c.toNat < 0x80 := by
  unfold decode at h
  split at h
  · rename_i hk
    cases h
    refine ⟨hk.symm, fun digits hd => ?_, nofun⟩
    cases hd
    rfl
  · rename_i hk
    obtain ⟨t, rfl, ht⟩ := decodeAscii_ok h
    refine ⟨hk.symm, nofun, fun u hu => ?_⟩
    cases hu
    exact ht
  · rename_i hk
    split at h
    · cases h
      exact ⟨hk.symm, nofun, nofun⟩
    · cases h

end Value

end DeviceDump
