/-
Canonical strings. A token in canonical form has two digits or more, all of them in lower case, and no zero before
more than two (`CanonicalToken`). A canonical string consists of such tokens with one space between neighbours
(`Canonical`); if there are none it is empty.
- `canonicalToken_iff_numeral`: the tokens in canonical form are the numerals.
- `canonical_iff_numerals`: so the canonical strings are the lists of numerals.
- `normalize_fixed_points`: they are what the canonical form of any list looks like, and the strings that are their own
  canonical form.
-/
import DeviceDump.Proofs.Hex.Normalize

namespace DeviceDump.Hex

/-! ## Tokens in canonical form -/

/-- a token in canonical form: two digits or more, all in lower case, and no zero before more than two -/
structure CanonicalToken (t : Text) : Prop where
  two_le : 2 ≤ t.length
  lower : ∀ c ∈ t, ('0' ≤ c ∧ c ≤ '9') ∨ ('a' ≤ c ∧ c ≤ 'f')
  noZero : 2 < t.length → t.head? ≠ some '0'

theorem lower_digitChar {d : Nat} (h : d < 16) :
    ('0' ≤ Nat.digitChar d ∧ Nat.digitChar d ≤ '9') ∨ ('a' ≤ Nat.digitChar d ∧ Nat.digitChar d ≤ 'f') :=
  (by decide : ∀ d ∈ List.range 16, ('0' ≤ Nat.digitChar d ∧ Nat.digitChar d ≤ '9') ∨
    ('a' ≤ Nat.digitChar d ∧ Nat.digitChar d ≤ 'f')) d (List.mem_range.2 h)

theorem toLower_of_lower {c : Char} (h : ('0' ≤ c ∧ c ≤ '9') ∨ ('a' ≤ c ∧ c ≤ 'f')) : c.toLower = c := by
  have hc : c.toNat ≤ 57 ∨ 97 ≤ c.toNat := h.imp And.right And.left
  refine dif_neg fun hupper => ?_
  have hu : 65 ≤ c.toNat ∧ c.toNat ≤ 90 := hupper
  omega

theorem canonicalToken_numeral (n : Nat) : CanonicalToken (numeral n) where
  two_le := two_le_length_numeral n
  lower c hc := by
    obtain ⟨d, hd, rfl⟩ := exists_digitChar_of_mem_numeral hc
    exact lower_digitChar hd
  noZero hlen := by
    unfold numeral at hlen ⊢
    split_ifs at hlen ⊢ with hn
    · rw [Nat.toDigits_of_lt_base hn] at hlen
      simp at hlen
    · exact Text.head?_toDigits_ne_zero (by decide) (by omega)

/-- A token in canonical form is not changed. -/
theorem canonicalDigits_eq_self {t : Text} (h : CanonicalToken t) : canonicalDigits t = t := by
  have hlower : t.map Char.toLower = t :=
    (List.map_congr_left fun c hc => toLower_of_lower (h.lower c hc)).trans (List.map_id t)
  rcases t with _ | ⟨a, _ | ⟨b, _ | ⟨c, rest⟩⟩⟩
  · exact absurd h.two_le (by decide)
  · exact absurd h.two_le (by simp)
  · simp only [List.map_cons, List.map_nil, List.cons.injEq, and_true] at hlower
    -- a zero is dropped, and put back where fewer than two digits are left
    by_cases ha : a = '0'
    · by_cases hb : b = '0'
      · simp [canonicalDigits, ha, hb]
      · simp [canonicalDigits, ha, hb, hlower]
    · simp [canonicalDigits, ha, hlower]
  · have ha : ¬ a = '0' := by simpa using h.noZero (by simp)
    rw [canonicalDigits, List.dropWhile_cons_of_neg (by simpa using ha), hlower]

theorem canonicalToken_iff_numeral {t : Text} : CanonicalToken t ↔ ∃ n, t = numeral n := by
  constructor
  · intro h
    have hd : ∀ c ∈ t, isDigit c = true := fun c hc => isDigit_iff.2 ((h.lower c hc).imp_right Or.inl)
    exact ⟨value t, by rw [← canonicalDigits_eq_numeral hd, canonicalDigits_eq_self h]⟩
  · rintro ⟨n, rfl⟩
    exact canonicalToken_numeral n

/-! ## Canonical strings -/

/-- a canonical string: tokens in canonical form, with one space between neighbours -/
def Canonical (s : Text) : Prop := ∃ ts, (∀ t ∈ ts, CanonicalToken t) ∧ s = [' '].intercalate ts

theorem canonical_iff_numerals {s : Text} : Canonical s ↔ ∃ ns, s = numerals ns := by
  constructor
  · rintro ⟨ts, hts, rfl⟩
    have hmap : ts ∈ Set.range (List.map numeral) := by
      rw [Set.range_list_map]
      exact fun t ht => (canonicalToken_iff_numeral.1 (hts t ht)).imp fun _ => Eq.symm
    obtain ⟨ns, rfl⟩ := hmap
    exact ⟨ns, rfl⟩
  · rintro ⟨ns, rfl⟩
    exact ⟨ns.map numeral, by simp [canonicalToken_numeral], rfl⟩

variable {input out : Text}

theorem canonical_of_normalize (h : normalize input = .ok out) : Canonical out :=
  canonical_iff_numerals.2 ⟨_, (normalize_ok_iff.1 h).2⟩

theorem normalize_of_canonical {s : Text} (h : Canonical s) : normalize s = .ok s := by
  obtain ⟨ns, rfl⟩ := canonical_iff_numerals.1 h
  exact normalize_numerals ns

/-! ## Main result -/

/-- **The canonical strings are the fixed points.** Whatever has a canonical form has one that is a canonical string,
and a string is its own canonical form just if it is canonical. So a second pass never changes anything. -/
theorem normalize_fixed_points :
    (∀ input out, normalize input = .ok out → Canonical out) ∧
    (∀ s, normalize s = .ok s ↔ Canonical s) ∧
    ∀ input out, normalize input = .ok out → normalize out = .ok out :=
  ⟨fun _ _ => canonical_of_normalize, fun _ => ⟨canonical_of_normalize, normalize_of_canonical⟩,
    fun _ _ h => normalize_of_canonical (canonical_of_normalize h)⟩

theorem normalize_fixed_points_padded :
    normalize ",0XFF\t1,, 0000100 ".toList = .ok "ff 01 100".toList ∧ Canonical "ff 01 100".toList ∧
    normalize "ff 01 100".toList = .ok "ff 01 100".toList := by
  have h : normalize ",0XFF\t1,, 0000100 ".toList = .ok "ff 01 100".toList := by decide
  obtain ⟨hcanonical, hfixed, -⟩ := normalize_fixed_points
  exact ⟨h, hcanonical _ _ h, (hfixed _).2 (hcanonical _ _ h)⟩

end DeviceDump.Hex
