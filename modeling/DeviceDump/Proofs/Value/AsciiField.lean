/-
The fields that hold 7-bit text. Their text is read without its blanks, as pairs of digits, and three things can be
wrong with it: an odd number of bytes, a byte that is no digit, a pair of 0x80 or more. They are looked for in this
order, the first two in the bytes that are left and the third only in what has been read; so each text is read in one
way (`ReadsAscii`).
- `decodeAscii_iff_readsAscii`: reading follows these cases.
- `dumped_of_decodeAscii`: what was read is written as its digits were, in lower case and without blanks.
- `decodeAscii_dumped_of_not`: a text that is not 7-bit can be written, but is refused when it is read.
- `decode_ascii_field`: all of it in one statement.
-/
import DeviceDump.Proofs.Hex.Pairs
import DeviceDump.Proofs.Value.Dumped

namespace DeviceDump.Value

variable {field : Name} {raw : Text}

/-- what the text of a 7-bit field is read as; blanks are taken out first, and the first thing wrong is reported -/
inductive ReadsAscii (field : Name) (raw : Text) : Except DumpError Value → Prop
  /-- an odd number of bytes -/
  | odd (hlen : raw.withoutBlanks.utf8.length % 2 = 1) : ReadsAscii field raw (.error (.invalidHex field .oddLength))
  /-- the first byte that is no digit, and how many bytes stand before it -/
  | notDigit {before after : List UInt8} {byte : UInt8} (hlen : raw.withoutBlanks.utf8.length % 2 = 0)
    (hs : raw.withoutBlanks.utf8 = before ++ byte :: after) (hb : ∀ b ∈ before, Hex.DigitByte b)
    (hn : ¬ Hex.DigitByte byte) : ReadsAscii field raw (.error (.invalidHex field (.notDigit byte before.length)))
  /-- a pair that is worth more than 7 bits; the text is shown with its blanks -/
  | notAscii (hlen : raw.withoutBlanks.utf8.length % 2 = 0) (hd : ∀ b ∈ raw.withoutBlanks.utf8, Hex.DigitByte b)
    (hp : ∃ n ∈ Hex.pairValues raw.withoutBlanks, 0x80 ≤ n) : ReadsAscii field raw (.error (.notAscii field raw))
  /-- nothing is wrong, and the pairs are the bytes of the text -/
  | text {t : Text} (hlen : raw.withoutBlanks.utf8.length % 2 = 0)
    (hd : ∀ b ∈ raw.withoutBlanks.utf8, Hex.DigitByte b) (hp : ∀ n ∈ Hex.pairValues raw.withoutBlanks, n < 0x80)
    (ht : t.utf8.map UInt8.toNat = Hex.pairValues raw.withoutBlanks) : ReadsAscii field raw (.ok (.ascii t))

/-! ## Reading -/

/-- What the pairs are worth is 7-bit just if the bytes are that are read for them. -/
theorem forall_lt_iff_pairValues (hd : ∀ b ∈ raw.withoutBlanks.utf8, Hex.DigitByte b) :
    (∀ b ∈ (Hex.pairValues raw.withoutBlanks).map UInt8.ofNat, b.toNat < 0x80) ↔
      ∀ n ∈ Hex.pairValues raw.withoutBlanks, n < 0x80 := by
  rw [← List.forall_mem_map (P := (· < 0x80)), Hex.map_toNat_pairValues (Hex.isDigit_of_digitBytes hd).2]

/-- Pairs of digits are read by what they are worth. -/
theorem decodeAscii_of_digits (hlen : raw.withoutBlanks.utf8.length % 2 = 0)
    (hd : ∀ b ∈ raw.withoutBlanks.utf8, Hex.DigitByte b) : decodeAscii field raw =
      if ∀ n ∈ Hex.pairValues raw.withoutBlanks, n < 0x80 then
        .ok (.ascii (((Hex.pairValues raw.withoutBlanks).map UInt8.ofNat).map Char.ofUInt8))
      else .error (.notAscii field raw) := by
  simp only [decodeAscii, Hex.decode_of_digits hlen hd, all_lt_iff, forall_lt_iff_pairValues hd]

theorem utf8_of_map_toNat {t : Text} {ns : List Nat} (ht : t.utf8.map UInt8.toNat = ns) :
    t.utf8 = ns.map UInt8.ofNat := by
  rw [← ht, List.map_map]
  exact ((List.map_congr_left fun b _ => UInt8.ofNat_toNat).trans (List.map_id _)).symm

/-- A 7-bit text is the one that its bytes are the codes of. -/
theorem eq_map_ofUInt8 {t : Text} {ns : List Nat} (ht : t.utf8.map UInt8.toNat = ns) (hn : ∀ n ∈ ns, n < 0x80) :
    t = (ns.map UInt8.ofNat).map Char.ofUInt8 := by
  have hseven : ∀ c ∈ t, c.toNat < 0x80 := by
    rw [← Text.forall_mem_utf8_lt_iff]
    exact fun b hb => hn _ (ht ▸ List.mem_map_of_mem hb)
  rw [← utf8_of_map_toNat ht, Text.map_ofUInt8_utf8 hseven]

theorem decodeAscii_of_readsAscii {outcome : Except DumpError Value} (h : ReadsAscii field raw outcome) :
    decodeAscii field raw = outcome := by
  cases h with
  | odd hlen => rw [decodeAscii, Hex.decode_of_odd hlen]
  | notDigit hlen hs hb hn => rw [decodeAscii, Hex.decode_of_bad hlen hs hb hn]
  | notAscii hlen hd hp =>
    have hhigh : ¬ ∀ n ∈ Hex.pairValues raw.withoutBlanks, n < 0x80 := by
      intro hall
      obtain ⟨n, hn, hle⟩ := hp
      exact absurd (hall n hn) (Nat.not_lt_of_le hle)
    rw [decodeAscii_of_digits hlen hd, if_neg hhigh]
  | text hlen hd hp ht => rw [decodeAscii_of_digits hlen hd, if_pos hp, ← eq_map_ofUInt8 ht hp]

/-- Every text falls under one of the cases. -/
theorem exists_readsAscii (field : Name) (raw : Text) : ∃ outcome, ReadsAscii field raw outcome := by
  rcases Nat.mod_two_eq_zero_or_one raw.withoutBlanks.utf8.length with hlen | hlen
  · rcases Hex.forall_digitByte_or_exists raw.withoutBlanks.utf8 with hd | ⟨before, byte, after, hs, hb, hn⟩
    · by_cases hp : ∀ n ∈ Hex.pairValues raw.withoutBlanks, n < 0x80
      · refine ⟨_, .text (t := ((Hex.pairValues raw.withoutBlanks).map UInt8.ofNat).map Char.ofUInt8) hlen hd hp ?_⟩
        rw [Text.utf8_map_ofUInt8 ((forall_lt_iff_pairValues hd).2 hp),
          Hex.map_toNat_pairValues (Hex.isDigit_of_digitBytes hd).2]
      · refine ⟨_, .notAscii hlen hd ?_⟩
        simpa using hp
    · exact ⟨_, .notDigit hlen hs hb hn⟩
  · exact ⟨_, .odd hlen⟩

/-- **A 7-bit field is read by these cases.** -/
theorem decodeAscii_iff_readsAscii {outcome : Except DumpError Value} :
    decodeAscii field raw = outcome ↔ ReadsAscii field raw outcome := by
  constructor
  · rintro rfl
    obtain ⟨outcome, h⟩ := exists_readsAscii field raw
    rwa [decodeAscii_of_readsAscii h]
  · exact decodeAscii_of_readsAscii

/-! ## Writing -/

/-- What was read is written with the digits that it was read from, in lower case. -/
theorem dumped_of_decodeAscii {t : Text} (h : decodeAscii field raw = .ok (.ascii t)) :
    (Value.ascii t).dumped = raw.withoutBlanks.map Char.toLower := by
  rw [decodeAscii_iff_readsAscii] at h
  cases h with
  | text hlen hd hp ht =>
    obtain ⟨hbytes, hdigits⟩ := Hex.isDigit_of_digitBytes hd
    rw [dumped, utf8_of_map_toNat ht, Hex.encode_pairValues hdigits (by omega)]

/-- A text with a character beyond 7 bits is refused in the form in which it is written. -/
theorem decodeAscii_dumped_of_not {t : Text} (h : ∃ c ∈ t, 0x80 ≤ c.toNat) (field : Name) :
    decodeAscii field (Value.ascii t).dumped = .error (.notAscii field (Value.ascii t).dumped) := by
  have hhigh : ¬ t.utf8.all (· < 0x80) = true := by
    rw [all_lt_iff, Text.forall_mem_utf8_lt_iff]
    simpa using h
  rw [dumped, decodeAscii_of_encode (withoutBlanks_encode t.utf8), if_neg hhigh]

/-! ## Main result -/

theorem decode_eq_decodeAscii (h : field = Field.uriPath ∨ field = Field.uriQuery) (raw : Text) :
    decode field raw = decodeAscii field raw := by
  rcases h with rfl | rfl <;> rfl

/-- how the text of a 7-bit field is read and written -/
structure AsciiContract (field : Name) : Prop where
  /-- reading follows the cases, of which each text falls under one -/
  reads : ∀ raw outcome, decode field raw = outcome ↔ ReadsAscii field raw outcome
  /-- what was read is written as the digits that were read, in lower case -/
  lower : ∀ raw t, decode field raw = .ok (.ascii t) → (Value.ascii t).dumped = raw.withoutBlanks.map Char.toLower
  /-- every 7-bit text is read back as it was written -/
  readBack : ∀ t, (∀ c ∈ t, c.toNat < 0x80) → decode field (Value.ascii t).dumped = .ok (.ascii t)
  /-- and no other text is -/
  refused : ∀ t, (∃ c ∈ t, 0x80 ≤ c.toNat) →
    decode field (Value.ascii t).dumped = .error (.notAscii field (Value.ascii t).dumped)
  oddMessage : Hex.PairError.oddLength.message = "Odd number of digits"
  /-- the byte is shown as the character of that code -/
  byteMessage : ∀ byte position, (Hex.PairError.notDigit byte position).message =
    "Invalid character " ++ Text.Quoted.ofChar (Char.ofUInt8 byte) ++ " at position " ++ Text.Decimal.ofNat position

/-- **A 7-bit field is read as the pairs of its digits say, and written in lower case.** -/
theorem decode_ascii_field (h : field = Field.uriPath ∨ field = Field.uriQuery) : AsciiContract field where
  reads raw outcome := by rw [decode_eq_decodeAscii h, decodeAscii_iff_readsAscii]
  lower raw t ht := by
    rw [decode_eq_decodeAscii h] at ht
    exact dumped_of_decodeAscii ht
  readBack t ht := by
    rw [decode_eq_decodeAscii h]
    exact decodeAscii_encode ht field
  refused t ht := by
    rw [decode_eq_decodeAscii h]
    exact decodeAscii_dumped_of_not ht field
  oddMessage := rfl
  byteMessage _ _ := rfl

/-- The position of a byte at fault does not count blanks, and counts the bytes of a character one by one. -/
theorem decode_ascii_field_spaced :
    (Field.uriPath = Field.uriPath ∨ Field.uriPath = Field.uriQuery) ∧
    decode Field.uriPath "6\u30001 3Dé".toList = .error (.invalidHex Field.uriPath (.notDigit 0xC3 4)) ∧
    decode Field.uriPath "6\u30001 F".toList = .error (.invalidHex Field.uriPath .oddLength) ∧
    decode Field.uriPath "6\u30001 fF".toList = .error (.notAscii Field.uriPath "6\u30001 fF".toList) ∧
    decode Field.uriPath "6\u30001 3D".toList = .ok (.ascii "a=".toList) ∧
    (Value.ascii "a=".toList).dumped = "613d".toList := by
  have h : Field.uriPath = Field.uriPath ∨ Field.uriPath = Field.uriQuery := Or.inl rfl
  obtain ⟨hreads, hlower, -⟩ := decode_ascii_field h
  have hgood : Text.utf8 (Text.withoutBlanks "6\u30001 3D".toList) = [0x36, 0x31, 0x33, 0x44] := by decide
  have hbad : Text.utf8 (Text.withoutBlanks "6\u30001 3Dé".toList) = [0x36, 0x31, 0x33, 0x44] ++ 0xC3 :: [0xA9] := by
    decide
  have hhigh : Text.utf8 (Text.withoutBlanks "6\u30001 fF".toList) = [0x36, 0x31, 0x66, 0x46] := by decide
  have hok : decode Field.uriPath "6\u30001 3D".toList = .ok (.ascii "a=".toList) :=
    (hreads _ _).2 (.text (by decide) (by rw [hgood]; simp [Hex.DigitByte]) (by decide) (by decide))
  refine ⟨h, ?_, ?_, ?_, hok, hlower _ _ hok⟩
  · exact (hreads _ _).2 (.notDigit (by decide) hbad (by simp [Hex.DigitByte]) (by decide))
  · exact (hreads _ _).2 (.odd (by decide))
  · exact (hreads _ _).2 (.notAscii (by decide) (by rw [hhigh]; simp [Hex.DigitByte]) (by decide))

end DeviceDump.Value
