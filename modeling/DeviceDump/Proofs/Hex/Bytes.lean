/-
Lists of bytes. Reading a list as bytes, writing bytes and bringing a list into canonical form are three functions
that must agree on which lists are lists of bytes, on which bytes they are, and on where a list fails.

A token is a byte just if it is readable and worth less than 256 (`byte_ok_iff`); else it is at fault (`NoByte`), and
for one of two reasons.
- `byteLiteral?_numeral`: the two digits left of such a token are always read, so no third reason arises.
- `parseBytes_formatBytes`, `normalize_formatBytes`: written bytes are read back, and are their own canonical form.
- `parseBytes_ok_iff`, `parseBytes_error_iff`: both outcomes of reading, each with its exact condition.
- `parseBytes_agrees_with_normalize`: all of it in one statement.
-/
import DeviceDump.Proofs.Hex.Normalize

namespace DeviceDump.Hex

/-! ## One token -/

/-- what is wrong with a token where a byte is asked for; the token is shown as it is written -/
inductive NoByte (token : Text) : Fault → Prop where
  /-- it has no canonical form -/
  | notHex (h : ¬ ∃ digits, normalizeToken token = .ok digits) : NoByte token (.notHex token)
  /-- it has one, but is worth more than a byte can be -/
  | tooWide (h : ∃ digits, normalizeToken token = .ok digits) (hw : 255 < worth token) : NoByte token (.tooWide token)

/-- The numeral of a byte is read as that byte. -/
theorem byteLiteral?_numeral {n : Nat} (h : n < 256) : byteLiteral? (numeral n) = some (UInt8.ofNat n) := by
  have hd : ∀ c ∈ numeral n, isDigit c = true := fun _ hc => isDigit_of_mem_numeral hc
  have hall : (numeral n).all isDigit = true := List.all_eq_true.2 hd
  unfold byteLiteral?
  split
  · rename_i rest hplus
    exact absurd (hd '+' (by rw [hplus]; exact List.mem_cons_self)) (by decide)
  · simp only [value_numeral]
    exact if_pos ⟨(isToken_numeral n).nonempty, hall, h⟩

theorem byte_of_lt {token : Text} (ht : IsToken token) (hr : Readable token) (hw : worth token < 256) :
    byte token = .ok (UInt8.ofNat (worth token)) := by
  have hlen : ¬ 2 < (numeral (worth token)).length := by
    rw [(length_numeral_eq_two_iff (worth token)).2 hw]
    decide
  simp only [byte, canonical_of_readable ht hr, if_neg hlen, byteLiteral?_numeral hw]

theorem byte_of_gt {token : Text} (ht : IsToken token) (hr : Readable token) (hw : 255 < worth token) :
    byte token = .error (.tooWide token) := by
  have hlen : 2 < (numeral (worth token)).length := by
    have htwo := two_le_length_numeral (worth token)
    have := mt (length_numeral_eq_two_iff (worth token)).1 (by omega)
    omega
  simp only [byte, canonical_of_readable ht hr, if_pos hlen]

theorem byte_of_not_readable {token : Text} (ht : IsToken token) (hr : ¬ Readable token) :
    byte token = .error (.notHex token) := by
  simp only [byte, canonical_of_not_readable ht hr]

theorem byte_ok_iff {token : Text} (ht : IsToken token) {b : UInt8} :
    byte token = .ok b ↔ (Readable token ∧ worth token < 256) ∧ b = UInt8.ofNat (worth token) := by
  by_cases hr : Readable token
  · by_cases hw : worth token < 256
    · rw [byte_of_lt ht hr hw]
      simp [hr, hw, eq_comm]
    · rw [byte_of_gt ht hr (by omega)]
      simp [hw]
  · rw [byte_of_not_readable ht hr]
    simp [hr]

theorem byte_error_iff {token : Text} (ht : IsToken token) {fault : Fault} :
    byte token = .error fault ↔ NoByte token fault := by
  have hok := normalizeToken_isOk_iff ht
  constructor
  · intro h
    by_cases hr : Readable token
    · by_cases hw : worth token < 256
      · rw [byte_of_lt ht hr hw] at h
        cases h
      · rw [byte_of_gt ht hr (by omega)] at h
        cases h
        exact .tooWide (hok.2 hr) (by omega)
    · rw [byte_of_not_readable ht hr] at h
      cases h
      exact .notHex fun hn => hr (hok.1 hn)
  · intro h
    cases h with
    | notHex h => exact byte_of_not_readable ht fun hr => h (hok.2 hr)
    | tooWide h hw => exact byte_of_gt ht (hok.1 h) hw

/-! ## Writing -/

/-- Bytes are written as the numerals of their numbers. -/
theorem formatBytes_eq_numerals (bytes : List UInt8) : formatBytes bytes = numerals (bytes.map UInt8.toNat) := by
  rw [formatBytes, numerals, List.map_map]
  exact congrArg _ (List.map_congr_left fun b _ => byteText_eq_numeral b)

/-- **Written bytes are in canonical form.** -/
theorem normalize_formatBytes (bytes : List UInt8) : normalize (formatBytes bytes) = .ok (formatBytes bytes) := by
  rw [formatBytes_eq_numerals, normalize_numerals]

/-! ## Reading -/

variable {input : Text} {bytes : List UInt8}

/-- What is read as bytes is readable, and of tokens that are worth these bytes. -/
theorem parseBytes_ok_iff : parseBytes input = .ok bytes ↔
    (∀ token ∈ tokens input, Readable token) ∧ (tokens input).map worth = bytes.map UInt8.toNat := by
  have hread : parseBytes input = .ok bytes ↔ (∀ token ∈ tokens input, Readable token ∧ worth token < 256) ∧
      bytes = (tokens input).map fun token => UInt8.ofNat (worth token) :=
    readTokens_ok_iff fun _ ht _ => byte_ok_iff (isToken_of_mem ht)
  rw [hread]
  constructor
  · rintro ⟨hall, rfl⟩
    refine ⟨fun token ht => (hall token ht).1, ?_⟩
    rw [List.map_map]
    exact List.map_congr_left fun token ht => (UInt8.toNat_ofNat_of_lt' (hall token ht).2).symm
  · rintro ⟨hall, hworth⟩
    have hlt : ∀ token ∈ tokens input, worth token < 256 := by
      intro token ht
      have hm : worth token ∈ bytes.map UInt8.toNat := hworth ▸ List.mem_map_of_mem ht
      obtain ⟨b, -, hb⟩ := List.mem_map.1 hm
      rw [← hb]
      exact b.toNat_lt
    refine ⟨fun token ht => ⟨hall token ht, hlt token ht⟩, ?_⟩
    have := congrArg (List.map UInt8.ofNat) hworth
    simpa [Function.comp_def] using this.symm

/-- **Written bytes are read back.** -/
theorem parseBytes_formatBytes (bytes : List UInt8) : parseBytes (formatBytes bytes) = .ok bytes := by
  rw [parseBytes_ok_iff, formatBytes_eq_numerals, map_worth_tokens_numerals]
  exact ⟨fun token ht => readable_of_mem_tokens_numerals ht, rfl⟩

/-- **Bytes are read just if the list has their canonical form.** -/
theorem parseBytes_ok_iff_normalize : parseBytes input = .ok bytes ↔ normalize input = .ok (formatBytes bytes) := by
  rw [parseBytes_ok_iff, normalize_ok_iff, formatBytes_eq_numerals, numerals_injective.eq_iff, eq_comm]

/-- Two digits are left of every token just if no token is worth more than a byte can be. -/
theorem forall_length_eq_two_iff {out : Text} (h : normalize input = .ok out) :
    (∀ t ∈ tokens out, t.length = 2) ↔ ∃ bytes, formatBytes bytes = out := by
  constructor
  · intro htwo
    have hlt : ∀ n ∈ (tokens input).map worth, n < 256 := by
      intro n hn
      rw [← length_numeral_eq_two_iff]
      exact htwo _ (tokens_normalize h ▸ List.mem_map_of_mem hn)
    refine ⟨((tokens input).map worth).map UInt8.ofNat, ?_⟩
    rw [formatBytes_eq_numerals, (normalize_ok_iff.1 h).2, List.map_map]
    refine congrArg numerals ((List.map_congr_left fun n hn => ?_).trans (List.map_id _))
    exact UInt8.toNat_ofNat_of_lt' (hlt n hn)
  · rintro ⟨bytes, rfl⟩ t ht
    rw [formatBytes_eq_numerals, tokens_numerals] at ht
    obtain ⟨n, hn, rfl⟩ := List.mem_map.1 ht
    obtain ⟨b, -, rfl⟩ := List.mem_map.1 hn
    exact (length_numeral_eq_two_iff _).2 b.toNat_lt

theorem parseBytes_isOk_iff : (∃ bytes, parseBytes input = .ok bytes) ↔
    ∃ out, normalize input = .ok out ∧ ∀ t ∈ tokens out, t.length = 2 := by
  constructor
  · rintro ⟨bytes, h⟩
    have hn := parseBytes_ok_iff_normalize.1 h
    exact ⟨_, hn, (forall_length_eq_two_iff hn).2 ⟨bytes, rfl⟩⟩
  · rintro ⟨out, hn, htwo⟩
    obtain ⟨bytes, rfl⟩ := (forall_length_eq_two_iff hn).1 htwo
    exact ⟨bytes, parseBytes_ok_iff_normalize.2 hn⟩

/-- **Reading fails at the first token that is no byte**, whichever of the two reasons that has. -/
theorem parseBytes_error_iff {e : TokenError} :
    parseBytes input = .error e ↔ FirstFault NoByte 0 (tokens input) e :=
  readTokens_error_iff fun _ ht _ => byte_error_iff (isToken_of_mem ht)

/-! ## Main result -/

/-- what reading a list as bytes gives, measured by the canonical form of the list -/
structure ByteContract (input : Text) : Prop where
  /-- the bytes are those that are written as the canonical form is -/
  ok_iff : ∀ bytes, parseBytes input = .ok bytes ↔
    ∃ out, normalize input = .ok out ∧ (∀ t ∈ tokens out, t.length = 2) ∧ formatBytes bytes = out
  /-- there are any just if the canonical form consists of pairs of digits -/
  isOk_iff : (∃ bytes, parseBytes input = .ok bytes) ↔
    ∃ out, normalize input = .ok out ∧ ∀ t ∈ tokens out, t.length = 2
  /-- else the first token that is no byte is at fault -/
  otherwise : (¬ ∃ out, normalize input = .ok out ∧ ∀ t ∈ tokens out, t.length = 2) →
    ∃ e, parseBytes input = .error e ∧ FirstFault NoByte 0 (tokens input) e
  error_iff : ∀ e, parseBytes input = .error e ↔ FirstFault NoByte 0 (tokens input) e
  not_empty : ∀ e, parseBytes input = .error e → e.fault ≠ .empty
  /-- the digits of a token that is not too wide are always read -/
  literal : ∀ token ∈ tokens input, ∀ digits, canonical token = .ok digits → digits.length ≤ 2 →
    (byteLiteral? digits).isSome = true

theorem byteContract (input : Text) : ByteContract input where
  ok_iff bytes := by
    rw [parseBytes_ok_iff_normalize]
    constructor
    · intro h
      exact ⟨_, h, (forall_length_eq_two_iff h).2 ⟨bytes, rfl⟩, rfl⟩
    · rintro ⟨out, h, -, rfl⟩
      exact h
  isOk_iff := parseBytes_isOk_iff
  otherwise h := by
    cases hp : parseBytes input with
    | error e => exact ⟨e, rfl, parseBytes_error_iff.1 hp⟩
    | ok bytes => exact absurd (parseBytes_isOk_iff.1 ⟨bytes, hp⟩) h
  error_iff _ := parseBytes_error_iff
  not_empty e h := by
    obtain ⟨_, _, _, -, -, hf, -⟩ := parseBytes_error_iff.1 h
    intro hempty
    rw [hempty] at hf
    cases hf
  literal token ht digits hc hlen := by
    obtain ⟨-, rfl⟩ := (canonical_ok_iff (isToken_of_mem ht)).1 hc
    have htwo := two_le_length_numeral (worth token)
    have hw := (length_numeral_eq_two_iff (worth token)).1 (by omega)
    rw [byteLiteral?_numeral hw]
    rfl

/-- **The three functions agree.** Bytes that are written are read back, and are in canonical form; and every list is
read as bytes just as its canonical form says, or fails at the first token that is no byte. -/
theorem parseBytes_agrees_with_normalize :
    (∀ bytes, parseBytes (formatBytes bytes) = .ok bytes ∧ normalize (formatBytes bytes) = .ok (formatBytes bytes)) ∧
    ∀ input, ByteContract input :=
  ⟨fun bytes => ⟨parseBytes_formatBytes bytes, normalize_formatBytes bytes⟩, byteContract⟩

example : parseBytes "0x0000ff 100 zz".toList = .error ⟨1, .tooWide "100".toList⟩ := by decide

end DeviceDump.Hex
