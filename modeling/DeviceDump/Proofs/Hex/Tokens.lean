/-
Tokens one by one and in lists.

A token is never empty and holds no separator (`IsToken`). It is accepted just if it is readable: what follows its
marker, or else all of it, is one digit or more (`Readable`). Then its canonical form is the numeral of what it is
worth (`canonical_of_readable`); any other token is reported as it is written (`canonical_of_not_readable`).
- `tokens_intercalate`: tokens written with single spaces between them are recovered by cutting.
- `tokens_trim`: blanks around a list belong to no token.
- `tokens_numerals`, `numerals_injective`: so a list of numerals says which numbers were written, and in which order.
- `readTokens_ok_iff`, `readTokens_error_iff`: reading a list gives what its tokens stand for, if all are fit to be
  read, or else its first fault (`FirstFault`).
-/
import DeviceDump.Proofs.Hex.Numeral
import DeviceDump.Proofs.Text.Lines
import DeviceDump.Proofs.Text.Spaced

namespace DeviceDump.Hex

/-! ## Cutting at separators -/

/-- a text that can be a token: not empty, and without separators -/
structure IsToken (t : Text) : Prop where
  nonempty : t ≠ []
  unbroken : ∀ c ∈ t, isSeparator c = false

theorem isBlank_of_not_isSeparator {c : Char} (h : isSeparator c = false) : Text.isBlank c = false :=
  (Bool.or_eq_false_iff.1 h).2

theorem isToken_of_mem {input token : Text} (h : token ∈ tokens input) : IsToken token := by
  obtain ⟨hp, hne⟩ := List.mem_filter.1 h
  exact ⟨by simpa using hne, List.forall_of_mem_splitOnP hp⟩

/-- A token is a list of one token. -/
theorem tokens_of_isToken {t : Text} (h : IsToken t) : tokens t = [t] := Text.pieces_of_unbroken h.nonempty h.unbroken

/-- Tokens with single spaces between them are cut where they were joined. -/
theorem tokens_intercalate {ts : List Text} (h : ∀ t ∈ ts, IsToken t) : tokens ([' '].intercalate ts) = ts :=
  Text.pieces_intercalate (by decide) fun t ht => ⟨(h t ht).nonempty, (h t ht).unbroken⟩

theorem trim_of_isToken {t : Text} (h : IsToken t) : t.trim = t :=
  Text.trim_of_forall fun c hc => isBlank_of_not_isSeparator (h.unbroken c hc)

theorem isSeparator_of_isBlank {c : Char} (h : Text.isBlank c = true) : isSeparator c = true := by
  simp [isSeparator, h]

theorem tokens_blank_append {blanks : Text} (h : Text.AllBlank blanks) (t : Text) :
    tokens (blanks ++ t) = tokens t := by
  induction blanks with
  | nil => rfl
  | cons c rest ih =>
    have hcut := tokens_append_separator (isSeparator_of_isBlank (h c List.mem_cons_self)) [] (rest ++ t)
    rw [List.cons_append, ← List.nil_append (c :: (rest ++ t)), hcut]
    exact ih fun d hd => h d (List.mem_cons_of_mem c hd)

theorem tokens_of_allBlank {blanks : Text} (h : Text.AllBlank blanks) : tokens blanks = [] := by
  have := tokens_blank_append h []
  rwa [List.append_nil] at this

theorem tokens_append_blank {blanks : Text} (h : Text.AllBlank blanks) (t : Text) :
    tokens (t ++ blanks) = tokens t := by
  cases blanks with
  | nil => rw [List.append_nil]
  | cons c rest =>
    have hrest : tokens rest = [] := tokens_of_allBlank fun d hd => h d (List.mem_cons_of_mem c hd)
    rw [tokens_append_separator (isSeparator_of_isBlank (h c List.mem_cons_self)), hrest, List.append_nil]

/-- Blanks around a list belong to no token. -/
theorem tokens_trim (t : Text) : tokens t.trim = tokens t := by
  have h := Text.framed_trim t
  generalize t.trim = core at h ⊢
  cases h with
  | intro before after hb ha => rw [tokens_append_blank ha, tokens_blank_append hb]

/-! ## Reading one token -/

/-- a token that is accepted: its digits are one or more, and hexadecimal -/
def Readable (token : Text) : Prop := digitsOf token ≠ [] ∧ ∀ c ∈ digitsOf token, isDigit c = true

/-- what a token is worth -/
def worth (token : Text) : Nat := value (digitsOf token)

theorem canonical_of_readable {token : Text} (ht : IsToken token) (h : Readable token) :
    canonical token = .ok (numeral (worth token)) := by
  have hd : (digitsOf token).all isDigit = true := List.all_eq_true.2 h.2
  simp [canonical, trim_of_isToken ht, ht.nonempty, h.1, hd, canonicalDigits_eq_numeral h.2, worth]

theorem canonical_of_not_readable {token : Text} (ht : IsToken token) (h : ¬ Readable token) :
    canonical token = .error (.notHex token) := by
  have hd : ((digitsOf token).isEmpty || !(digitsOf token).all isDigit) = true := by
    by_contra hc
    rw [Bool.not_eq_true, Bool.or_eq_false_iff] at hc
    exact h ⟨by simpa using hc.1, by simpa using hc.2⟩
  simp only [canonical, trim_of_isToken ht, List.isEmpty_iff, ht.nonempty, if_false, hd, if_true]

theorem canonical_ok_iff {token out : Text} (ht : IsToken token) :
    canonical token = .ok out ↔ Readable token ∧ out = numeral (worth token) := by
  by_cases h : Readable token
  · rw [canonical_of_readable ht h]
    simp [h, eq_comm]
  · rw [canonical_of_not_readable ht h]
    simp [h]

theorem normalizeToken_isOk_iff {token : Text} (ht : IsToken token) :
    (∃ digits, normalizeToken token = .ok digits) ↔ Readable token := by
  by_cases h : Readable token
  · simp [normalizeToken, canonical_of_readable ht h, h]
  · simp [normalizeToken, canonical_of_not_readable ht h, h]

/-- Digits have no marker before them, since its letter is no digit. -/
theorem digitsOf_of_forall {digits : Text} (h : ∀ c ∈ digits, isDigit c = true) : digitsOf digits = digits := by
  unfold digitsOf
  split
  · exact absurd (h 'x' (by simp)) (by decide)
  · exact absurd (h 'X' (by simp)) (by decide)
  · rfl

theorem isToken_numeral (n : Nat) : IsToken (numeral n) := by
  refine ⟨fun hnil => ?_, fun c hc => isSeparator_of_isDigit (isDigit_of_mem_numeral hc)⟩
  have := two_le_length_numeral n
  rw [hnil] at this
  simp at this

theorem digitsOf_numeral (n : Nat) : digitsOf (numeral n) = numeral n :=
  digitsOf_of_forall fun _ hc => isDigit_of_mem_numeral hc

theorem readable_numeral (n : Nat) : Readable (numeral n) := by
  unfold Readable
  rw [digitsOf_numeral]
  exact ⟨(isToken_numeral n).nonempty, fun _ hc => isDigit_of_mem_numeral hc⟩

theorem worth_numeral (n : Nat) : worth (numeral n) = n := by
  rw [worth, digitsOf_numeral, value_numeral]

/-! ## Numerals in a list -/

/-- the numerals of numbers, with single spaces between them -/
def numerals (ns : List Nat) : Text := [' '].intercalate (ns.map numeral)

/-- The tokens are the numerals that were written. -/
theorem tokens_numerals (ns : List Nat) : tokens (numerals ns) = ns.map numeral := by
  apply tokens_intercalate
  intro t ht
  obtain ⟨n, -, rfl⟩ := List.mem_map.1 ht
  exact isToken_numeral n

/-- The numbers can be read off their numerals. -/
theorem map_worth_tokens_numerals (ns : List Nat) : (tokens (numerals ns)).map worth = ns := by
  rw [tokens_numerals, List.map_map]
  refine (List.map_congr_left fun n _ => ?_).trans (List.map_id ns)
  exact worth_numeral n

theorem numerals_injective : Function.Injective numerals := by
  intro ns others h
  rw [← map_worth_tokens_numerals ns, h, map_worth_tokens_numerals]

theorem readable_of_mem_tokens_numerals {ns : List Nat} {token : Text} (h : token ∈ tokens (numerals ns)) :
    Readable token := by
  rw [tokens_numerals] at h
  obtain ⟨n, -, rfl⟩ := List.mem_map.1 h
  exact readable_numeral n

/-! ## Reading a list -/

variable {α : Type} {read : Text → Except Fault α} {index : Nat} {ts : List Text}

/-- Where a token is read just if it is fit, and then as what it stands for, a list is read just if all its tokens are
fit, and then as what they stand for in order. -/
theorem readTokens_ok_iff {fit : Text → Prop} {meaning : Text → α}
    (h : ∀ token ∈ ts, ∀ a, read token = .ok a ↔ fit token ∧ a = meaning token) {as : List α} :
    readTokens read index ts = .ok as ↔ (∀ token ∈ ts, fit token) ∧ as = ts.map meaning := by
  induction ts generalizing index as with
  | nil => simp [readTokens, eq_comm]
  | cons token rest ih =>
    have hhead := h token List.mem_cons_self
    have htail : ∀ others, readTokens read (index + 1) rest = .ok others ↔
        (∀ t ∈ rest, fit t) ∧ others = rest.map meaning :=
      fun others => ih fun t ht => h t (List.mem_cons_of_mem token ht)
    rw [List.forall_mem_cons, List.map_cons, readTokens]
    cases hr : read token with
    | error fault =>
      have hunfit : ¬ fit token := by
        intro hf
        have := (hhead (meaning token)).2 ⟨hf, rfl⟩
        rw [hr] at this
        cases this
      simp [hunfit]
    | ok a =>
      obtain ⟨hf, rfl⟩ := (hhead a).1 hr
      show (readTokens read (index + 1) rest).map (meaning token :: ·) = .ok as ↔ _
      rw [Except.map_eq_ok_iff_of_forall htail, and_iff_right hf]

/-- the fault of the first token that has one, with its index, where the first token of all has the given one -/
def FirstFault (faulty : Text → Fault → Prop) (index : Nat) (ts : List Text) (e : TokenError) : Prop :=
  ∃ before token after, ts = before ++ token :: after ∧ (∀ t ∈ before, ∀ fault, ¬ faulty t fault) ∧
    faulty token e.fault ∧ e.index = index + before.length

/-- The first fault is that of the first token, or else the first in the rest. -/
theorem firstFault_cons {faulty : Text → Fault → Prop} {token : Text} {e : TokenError} :
    FirstFault faulty index (token :: ts) e ↔
      (faulty token e.fault ∧ e.index = index) ∨
        (∀ fault, ¬ faulty token fault) ∧ FirstFault faulty (index + 1) ts e := by
  constructor
  · rintro ⟨before, t, after, hts, hb, hf, hi⟩
    cases before with
    | nil =>
      obtain ⟨rfl, rfl⟩ := List.cons.inj hts
      exact Or.inl ⟨hf, hi⟩
    | cons first others =>
      obtain ⟨rfl, rfl⟩ := List.cons.inj hts
      refine Or.inr ⟨hb token List.mem_cons_self, others, t, after, rfl, ?_, hf, ?_⟩
      · exact fun x hx => hb x (List.mem_cons_of_mem token hx)
      · rw [hi, List.length_cons]
        omega
  · rintro (⟨hf, hi⟩ | ⟨hno, before, t, after, rfl, hb, hf, hi⟩)
    · exact ⟨[], token, ts, rfl, by simp, hf, hi⟩
    · refine ⟨token :: before, t, after, rfl, List.forall_mem_cons.2 ⟨hno, hb⟩, hf, ?_⟩
      rw [hi, List.length_cons]
      omega

/-- Reading a list fails with its first fault. -/
theorem readTokens_error_iff {faulty : Text → Fault → Prop}
    (h : ∀ token ∈ ts, ∀ fault, read token = .error fault ↔ faulty token fault) {e : TokenError} :
    readTokens read index ts = .error e ↔ FirstFault faulty index ts e := by
  induction ts generalizing index with
  | nil => simp [readTokens, FirstFault]
  | cons token rest ih =>
    have hhead := h token List.mem_cons_self
    have htail : readTokens read (index + 1) rest = .error e ↔ FirstFault faulty (index + 1) rest e :=
      ih fun t ht => h t (List.mem_cons_of_mem token ht)
    rw [firstFault_cons, readTokens]
    cases hr : read token with
    | error fault =>
      have hfault : faulty token fault := (hhead fault).1 hr
      have hsome : ¬ ∀ fault, ¬ faulty token fault := fun hno => hno fault hfault
      rw [← hhead e.fault, hr]
      constructor
      · rintro ⟨⟩
        exact Or.inl ⟨rfl, rfl⟩
      · rintro (⟨⟨⟩, hi⟩ | ⟨hno, -⟩)
        · show Except.error (TokenError.mk index e.fault) = Except.error e
          rw [← hi]
        · exact absurd hno hsome
    | ok a =>
      have hnone : ∀ fault, ¬ faulty token fault := by
        intro fault hf
        have := (hhead fault).2 hf
        rw [hr] at this
        cases this
      show (readTokens read (index + 1) rest).map (a :: ·) = .error e ↔ _
      rw [Except.map_eq_error_iff, htail, or_iff_right fun hf => hnone e.fault hf.1, and_iff_right hnone]

end DeviceDump.Hex
