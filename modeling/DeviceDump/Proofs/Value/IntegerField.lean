/-
The fields that hold an integer. Their text is read just if it is a literal for an integer that fits into 64 bits with
a sign; the value is that integer. Every other text is refused and shown as it stands: it is never cut down to an
integer that fits, or wrapped round.

What is written for an integer is read back as it, and is the shortest of its spellings: whatever else is read as the
same integer has a plus sign, a zero before other digits, or a minus sign before zero.
- `decode_eq_ok_iff`, `decode_eq_error`: both outcomes of reading.
- `decode_integer_field`: all of it in one statement.
-/
import DeviceDump.Proofs.Text.Literal
import DeviceDump.Proofs.Value.Dumped

namespace DeviceDump.Value

open Text.Decimal (InRange Literal Superfluous)

variable {field : Name} {raw : Text}

theorem decode_eq_ok_iff (h : Field.kind field = .integer) {n : Int64} :
    decode field raw = .ok (.integer n) ↔ ∃ z, Literal raw z ∧ InRange z ∧ n.toInt = z := by
  rw [← Text.Decimal.word?_eq_some_iff]
  simp only [decode, h]
  cases Text.Decimal.word? raw <;> simp

theorem decode_eq_error (h : Field.kind field = .integer) (hr : ¬ ∃ z, Literal raw z ∧ InRange z) :
    decode field raw = .error (.invalidInteger field raw) := by
  simp only [decode, h]
  cases hw : Text.Decimal.word? raw with
  | none => rfl
  | some n =>
    obtain ⟨z, hl, hz, -⟩ := Text.Decimal.word?_eq_some_iff.1 hw
    exact absurd ⟨z, hl, hz⟩ hr

/-- how the text of an integer field is read and written -/
structure IntegerContract (field : Name) : Prop where
  /-- a text is read as the integer that it is a literal for, if this fits into 64 bits -/
  ok_iff : ∀ raw (n : Int64), decode field raw = .ok (.integer n) ↔
    ∃ z, Literal raw z ∧ (-2 ^ 63 ≤ z ∧ z ≤ 2 ^ 63 - 1) ∧ n.toInt = z
  /-- else it is refused, and shown as it stands -/
  otherwise : ∀ raw, (¬ ∃ z, Literal raw z ∧ -2 ^ 63 ≤ z ∧ z ≤ 2 ^ 63 - 1) →
    decode field raw = .error (.invalidInteger field raw)
  /-- every integer is read back as it was written -/
  readBack : ∀ n : Int64, decode field (Value.integer n).dumped = .ok (.integer n)
  /-- every other spelling of it that is read has something superfluous -/
  spelling : ∀ raw (n : Int64), decode field raw = .ok (.integer n) →
    (raw ≠ (Value.integer n).dumped ↔ Superfluous raw n.toInt)

/-- **An integer field holds the literals of 64 bits**, whatever their spelling, and is written in the shortest one. -/
theorem decode_integer_field (h : Field.kind field = .integer) : IntegerContract field where
  ok_iff raw n := decode_eq_ok_iff h
  otherwise raw hr := decode_eq_error h hr
  readBack n := decode_dumped h.symm nofun
  spelling raw n hd := by
    obtain ⟨z, hl, -, rfl⟩ := (decode_eq_ok_iff h).1 hd
    exact (Text.Decimal.superfluous_iff_ne hl).symm

/-- The least integer is read, and the one below it is refused; a sign and zeros make no difference to the value. -/
theorem decode_integer_field_extremes :
    Field.kind Field.messageId = .integer ∧
    decode Field.messageId "-9223372036854775808".toList = .ok (.integer Int64.minValue) ∧
    decode Field.messageId "-9223372036854775809".toList =
      .error (.invalidInteger Field.messageId "-9223372036854775809".toList) ∧
    decode Field.messageId "+00000000000000000000007".toList = .ok (.integer 7) ∧
    Superfluous "+00000000000000000000007".toList 7 := by
  have h : Field.kind Field.messageId = .integer := by decide
  obtain ⟨hok, hother, hback, hspelling⟩ := decode_integer_field h
  have hseven : decode Field.messageId "+00000000000000000000007".toList = .ok (.integer 7) :=
    (hok _ _).2 ⟨7, Text.Decimal.integer?_eq_some_iff.1 rfl, by decide, rfl⟩
  refine ⟨h, hback Int64.minValue, ?_, hseven, (hspelling _ _ hseven).1 (by decide)⟩
  apply hother
  rintro ⟨z, hl, hz⟩
  have hvalue : Text.Decimal.integer? "-9223372036854775809".toList = some (-9223372036854775809) := by rfl
  obtain rfl := hl.unique (Text.Decimal.integer?_eq_some_iff.1 hvalue)
  exact absurd hz (by decide)

end DeviceDump.Value
