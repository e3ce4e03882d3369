/-
The canonical form of a list of tokens. It holds the numerals of what the tokens are worth, in order, and nothing
else (`normalize_ok_iff`), so it says as much as the list of these numbers.
- `normalize_numerals`: numerals are their own canonical form.
- `normalize_eq_iff_worth`: two lists have the same canonical form just if their tokens are worth the same.
- `normalize_keeps_values`: which lists have a canonical form, and what it keeps of them.
-/
import DeviceDump.Proofs.Hex.Tokens

namespace DeviceDump.Hex

variable {input out : Text}

/-- A list has a canonical form just if all its tokens are readable: the numerals of what they are worth. -/
theorem normalize_ok_iff : normalize input = .ok out ↔
    (∀ token ∈ tokens input, Readable token) ∧ out = numerals ((tokens input).map worth) := by
  have hread : ∀ as, readTokens canonical 0 (tokens input) = .ok as ↔
      (∀ token ∈ tokens input, Readable token) ∧ as = (tokens input).map fun token => numeral (worth token) :=
    fun as => readTokens_ok_iff fun token ht a => canonical_ok_iff (isToken_of_mem ht)
  rw [normalize, Except.map_eq_ok_iff_of_forall hread, numerals, List.map_map]
  rfl

theorem normalize_isOk_iff : (∃ out, normalize input = .ok out) ↔ ∀ token ∈ tokens input, Readable token := by
  constructor
  · rintro ⟨out, h⟩
    exact (normalize_ok_iff.1 h).1
  · intro h
    exact ⟨_, normalize_ok_iff.2 ⟨h, rfl⟩⟩

/-- **Numerals are their own canonical form.** -/
theorem normalize_numerals (ns : List Nat) : normalize (numerals ns) = .ok (numerals ns) := by
  rw [normalize_ok_iff, map_worth_tokens_numerals]
  exact ⟨fun token ht => readable_of_mem_tokens_numerals ht, rfl⟩

theorem tokens_normalize (h : normalize input = .ok out) : tokens out = ((tokens input).map worth).map numeral := by
  rw [(normalize_ok_iff.1 h).2, tokens_numerals]

/-- **Two lists have one canonical form just if their tokens are worth the same.** -/
theorem normalize_eq_iff_worth {other out' : Text} (h : normalize input = .ok out) (h' : normalize other = .ok out') :
    out = out' ↔ (tokens input).map worth = (tokens other).map worth := by
  rw [(normalize_ok_iff.1 h).2, (normalize_ok_iff.1 h').2]
  exact numerals_injective.eq_iff

/-! ## Main result -/

/-- **The canonical form keeps what the tokens are worth, and nothing else.** A list has a canonical form just if
every token has digits and all of them are hexadecimal. The tokens of the form are as many and stand in the same order;
they bear no marker, and each is worth what the digits of its token are worth. Of two lists that have a canonical form,
both have the same one just if their tokens are worth the same. -/
theorem normalize_keeps_values (input : Text) :
    ((∃ out, normalize input = .ok out) ↔
      ∀ token ∈ tokens input, digitsOf token ≠ [] ∧ ∀ c ∈ digitsOf token, isDigit c = true) ∧
    (∀ out, normalize input = .ok out →
      List.Forall₂ (fun token written => digitsOf written = written ∧ value written = value (digitsOf token))
        (tokens input) (tokens out)) ∧
    ∀ other out out', normalize input = .ok out → normalize other = .ok out' →
      (out = out' ↔
        (tokens input).map (fun token => value (digitsOf token)) =
          (tokens other).map fun token => value (digitsOf token)) := by
  refine ⟨normalize_isOk_iff, fun out h => ?_, fun other out out' h h' => normalize_eq_iff_worth h h'⟩
  rw [tokens_normalize h, List.map_map, List.forall₂_map_right_iff, List.forall₂_same]
  intro token _
  exact ⟨digitsOf_numeral (worth token), value_numeral (worth token)⟩

example : normalize "0x51,01,0x0 4,0X8a,\t000b4".toList = .ok "51 01 00 04 8a b4".toList := by decide

end DeviceDump.Hex
