/-
Literals of integers in base 10: one or more ASCII digits, perhaps with a sign before them (`Literal`). A literal
stands for what its digits are worth by their places, however many they are.
- `integer?_eq_some_iff`: the literals are the texts that are read, each as the integer that it stands for.
- `word?_eq_some_iff`: of those, the ones within 64 bits are read as a word, which is that very integer.
- `ofNat_worth`: digits without a zero first are those that their number is written with.
- `superfluous_iff_ne`: so a literal that is not what its integer is written as has something in it that could be left
  out: a plus sign, a zero before other digits, or a minus sign before zero.
-/
import DeviceDump.Proofs.Text.Digits
import DeviceDump.Text.Decimal

namespace DeviceDump.Text.Decimal

/-- one or more ASCII digits -/
structure Digits (t : Text) : Prop where
  nonempty : t ≠ []
  digit : ∀ c ∈ t, '0' ≤ c ∧ c ≤ '9'

/-- what digits are worth: each counts ten times as much for every digit behind it -/
def worth : Text → Nat
  | [] => 0
  | c :: rest => (c.toNat - '0'.toNat) * 10 ^ rest.length + worth rest

/-- the text is a literal for the integer: digits, perhaps with a sign before them -/
inductive Literal : Text → Int → Prop
  | unsigned {digits : Text} (h : Digits digits) : Literal digits (worth digits)
  | plus {digits : Text} (h : Digits digits) : Literal ('+' :: digits) (worth digits)
  | minus {digits : Text} (h : Digits digits) : Literal ('-' :: digits) (-(worth digits))

variable {t : Text} {z : Int}

/-! ## Reading -/

theorem isDigit_iff {c : Char} : c.isDigit = true ↔ '0' ≤ c ∧ c ≤ '9' := by
  simp [Char.isDigit, Char.le_def, UInt32.le_iff_toNat_le]

/-- Reading digits from the left adds up what they are worth by their places. -/
theorem ofDigitChars_eq_worth (t : Text) : Nat.ofDigitChars 10 t 0 = worth t := by
  induction t with
  | nil => rfl
  | cons c rest ih =>
    rw [Nat.ofDigitChars_cons, Nat.ofDigitChars_eq_ofDigitChars_zero, ih, worth, Nat.mul_zero, Nat.zero_add,
      Nat.mul_comm]

theorem natural?_eq_some_iff {n : Nat} : natural? t = some n ↔ Digits t ∧ worth t = n := by
  have hd : (t ≠ [] ∧ t.all Char.isDigit = true) ↔ Digits t := by
    simp only [List.all_eq_true, isDigit_iff]
    exact ⟨fun h => ⟨h.1, h.2⟩, fun h => ⟨h.nonempty, h.digit⟩⟩
  rw [natural?, ofDigitChars_eq_worth, ← hd, Option.ite_none_right_eq_some, Option.some.injEq]

theorem natural?_of_digits (h : Digits t) : natural? t = some (worth t) := natural?_eq_some_iff.2 ⟨h, rfl⟩

/-- **The literals are read, each as its integer**, and nothing else is. -/
theorem integer?_eq_some_iff : integer? t = some z ↔ Literal t z := by
  constructor
  · intro h
    unfold integer? at h
    split at h
    all_goals
      simp only [Option.map_eq_some_iff, Option.bind_eq_bind, Option.bind_eq_some_iff, natural?_eq_some_iff] at h
      obtain ⟨_, ⟨n, ⟨hd, rfl⟩, ⟨⟩⟩, rfl⟩ := h
    · exact .minus hd
    · exact .plus hd
    · exact .unsigned hd
  · intro h
    cases h with
    | unsigned h =>
      -- a digit is neither sign
      unfold integer?
      split
      · exact absurd (h.digit '-' List.mem_cons_self) (by decide)
      · exact absurd (h.digit '+' List.mem_cons_self) (by decide)
      · simp [natural?_of_digits h]
    | plus h => simp [integer?, natural?_of_digits h]
    | minus h => simp [integer?, natural?_of_digits h]

/-- A literal stands for one integer. -/
theorem Literal.unique {z₁ z₂ : Int} (h₁ : Literal t z₁) (h₂ : Literal t z₂) : z₁ = z₂ := by
  rw [← integer?_eq_some_iff] at h₁ h₂
  exact Option.some.inj (h₁.symm.trans h₂)

/-- **Of the literals those within 64 bits are read**, and the word is the integer that the literal stands for. -/
theorem word?_eq_some_iff {n : Int64} : word? t = some n ↔ ∃ z, Literal t z ∧ InRange z ∧ n.toInt = z := by
  simp only [← integer?_eq_some_iff]
  rw [word?, Option.bind_eq_some_iff]
  refine exists_congr fun z => and_congr_right fun _ => ?_
  constructor
  · intro h
    split_ifs at h with hz
    cases h
    exact ⟨hz, Int64.toInt_ofInt_of_le hz.1 (Int.lt_add_one_of_le hz.2)⟩
  · rintro ⟨hz, rfl⟩
    rw [if_pos hz, Int64.ofInt_toInt]

/-! ## Numbers and their digits -/

theorem digit_of_digit {c : Char} (h : '0' ≤ c ∧ c ≤ '9') :
    ∃ d < 10, c.toNat - '0'.toNat = d ∧ Nat.digitChar d = c := by
  have hc : 48 ≤ c.toNat ∧ c.toNat ≤ 57 := h
  have h0 : '0'.toNat = 48 := rfl
  refine ⟨c.toNat - 48, by omega, by rw [h0], ?_⟩
  apply Char.toNat_inj.1
  rw [Nat.toNat_digitChar_of_lt_ten (by omega)]
  omega

/-- **Digits without a zero first are those that their number is written with.** -/
theorem ofNat_worth (h : Digits t) (h0 : t.head? ≠ some '0') : ofNat (worth t) = t := by
  have hlt : ∀ c ∈ t, c.toNat - '0'.toNat < 10 := by
    intro c hc
    obtain ⟨d, hd, rfl, -⟩ := digit_of_digit (h.digit c hc)
    exact hd
  have hchar : ∀ c ∈ t, Nat.digitChar (c.toNat - '0'.toNat) = c := by
    intro c hc
    obtain ⟨d, -, rfl, hd⟩ := digit_of_digit (h.digit c hc)
    exact hd
  have hzero : ∀ c ∈ t, c.toNat - '0'.toNat = 0 → c = '0' := by
    intro c hc hd
    rw [← hchar c hc, hd]
    rfl
  calc ofNat (worth t)
      = Nat.toDigits 10 (numberOf 10 (fun c => c.toNat - '0'.toNat) t) := by
        rw [← ofDigitChars_eq_worth]
        rfl
    _ = t.map fun c => Nat.digitChar (c.toNat - '0'.toNat) := toDigits_numberOf (by decide) h.nonempty h0 hlt hzero
    _ = t.map id := List.map_congr_left hchar
    _ = t := List.map_id t

theorem digits_ofNat (n : Nat) : Digits (ofNat n) := (natural?_eq_some_iff.1 (natural?_ofNat n)).1

/-- A number is not written with a zero before other digits. -/
theorem ofNat_ne_zero_cons (n : Nat) (c : Char) (rest : Text) : ofNat n ≠ '0' :: c :: rest := by
  intro h
  rcases Nat.eq_zero_or_pos n with rfl | hn
  · simp [ofNat] at h
  · exact head?_toDigits_ne_zero (by decide) hn (congrArg List.head? h)

theorem ofNat_worth_of_ne (h : Digits t) (hz : ∀ c rest, t ≠ '0' :: c :: rest) : ofNat (worth t) = t := by
  rcases t with _ | ⟨d, _ | ⟨c, rest⟩⟩
  · exact absurd rfl h.nonempty
  · by_cases hd : d = '0'
    · rw [hd]
      rfl
    · exact ofNat_worth h (by simpa using hd)
  · apply ofNat_worth h
    intro hd
    exact hz c rest (by rw [Option.some.inj hd])

/-! ## Spellings of one integer -/

/-- something stands in a literal for the integer that could be left out -/
inductive Superfluous : Text → Int → Prop
  | plus (digits : Text) (z : Int) : Superfluous ('+' :: digits) z
  /-- a zero before other digits -/
  | zero (c : Char) (rest : Text) (z : Int) : Superfluous ('0' :: c :: rest) z
  | zeroBehindMinus (c : Char) (rest : Text) (z : Int) : Superfluous ('-' :: '0' :: c :: rest) z
  | minusBeforeZero (digits : Text) : Superfluous ('-' :: digits) 0

theorem ofInt_neg {n : Nat} (h : 0 < n) : ofInt (-(n : Int)) = '-' :: ofNat n := by
  obtain ⟨m, rfl⟩ := Nat.exists_eq_add_of_lt h
  rw [Nat.zero_add]
  rfl

theorem eq_ofInt_of_literal (h : Literal t z) (hs : ¬ Superfluous t z) : t = ofInt z := by
  cases h with
  | unsigned h =>
    have hz : ∀ c rest, t ≠ '0' :: c :: rest := by
      rintro c rest rfl
      exact hs (.zero c rest _)
    exact (ofNat_worth_of_ne h hz).symm
  | plus h => exact absurd (.plus _ _) hs
  | @minus digits h =>
    have hz : ∀ c rest, digits ≠ '0' :: c :: rest := by
      rintro c rest rfl
      exact hs (.zeroBehindMinus c rest _)
    have hpos : 0 < worth digits := by
      rw [Nat.pos_iff_ne_zero]
      intro h0
      rw [h0] at hs
      exact hs (.minusBeforeZero digits)
    rw [ofInt_neg hpos, ofNat_worth_of_ne h hz]

theorem not_superfluous_ofInt (z : Int) : ¬ Superfluous (ofInt z) z := by
  have hdigit : ∀ n c rest, ofNat n = c :: rest → '0' ≤ c ∧ c ≤ '9' := by
    intro n c rest h
    exact (digits_ofNat n).digit c (by rw [h]; exact List.mem_cons_self)
  intro h
  generalize hs : ofInt z = s at h
  cases z with
  | ofNat n =>
    cases h with
    | plus digits => exact absurd (hdigit n _ _ hs) (by decide)
    | zero c rest => exact ofNat_ne_zero_cons n c rest hs
    | zeroBehindMinus c rest => exact absurd (hdigit n _ _ hs) (by decide)
    | minusBeforeZero digits => exact absurd (hdigit 0 _ _ hs) (by decide)
  | negSucc n =>
    cases h with
    | plus digits => exact absurd (List.cons.inj hs).1 (by decide)
    | zero c rest => exact absurd (List.cons.inj hs).1 (by decide)
    | zeroBehindMinus c rest => exact ofNat_ne_zero_cons (n + 1) c rest (List.cons.inj hs).2

/-- **Only what an integer is written as has nothing superfluous in it**, of all the literals for the integer. -/
theorem superfluous_iff_ne (h : Literal t z) : Superfluous t z ↔ t ≠ ofInt z := by
  constructor
  · rintro hs rfl
    exact not_superfluous_ofInt z hs
  · intro hne
    by_contra hs
    exact hne (eq_ofInt_of_literal h hs)

end DeviceDump.Text.Decimal
