/-
Two lists as one, with a comma or a blank between them. The tokens are those of the first followed by those of the
second, under indices that go on from the first. So both ways of reading a list obey one law (`together`): the first
error counts, an error of the second list under its later index, and else the results are put together.
- `readTokens_append`: the law for tokens, however they are read.
- `intercalate_append`: canonical forms are joined by one space, unless one of them is empty.
- `reading_append_separator`: the law for canonical forms and for bytes.
-/
import DeviceDump.Proofs.Hex.Tokenwise
import DeviceDump.Proofs.Text.Spaced

namespace DeviceDump.Hex

/-- the same error, so many tokens later -/
def TokenError.later (n : Nat) (e : TokenError) : TokenError := ⟨e.index + n, e.fault⟩

/-- the outcome for two lists, the first of `n` tokens, from the outcomes for each -/
def together {α : Type} (n : Nat) (put : α → α → α) (first second : Except TokenError α) : Except TokenError α :=
  match first, second with
  | .error e, _ => .error e
  | .ok _, .error e => .error (e.later n)
  | .ok a, .ok b => .ok (put a b)

/-- two canonical forms with a space between them, left out where there is nothing on one side of it -/
def joined (s t : Text) : Text := if s = [] ∨ t = [] then s ++ t else s ++ ' ' :: t

/-! ## Tokens -/

variable {α : Type} {read : Text → Except Fault α}

/-- Tokens under later indices are read alike, and fail under a later index. -/
theorem readTokens_later (index n : Nat) (ts : List Text) :
    readTokens read (index + n) ts = (readTokens read index ts).mapError (TokenError.later n) := by
  induction ts generalizing index with
  | nil => rfl
  | cons token rest ih =>
    rw [readTokens, readTokens]
    cases read token with
    | error fault => rfl
    | ok a =>
      show (readTokens read (index + n + 1) rest).map (a :: ·) = ((readTokens read (index + 1) rest).map _).mapError _
      rw [Nat.add_right_comm, ih]
      cases readTokens read (index + 1) rest <;> rfl

theorem readTokens_append (index : Nat) (ts us : List Text) :
    readTokens read index (ts ++ us) =
      together ts.length (· ++ ·) (readTokens read index ts) (readTokens read index us) := by
  induction ts generalizing index with
  | nil =>
    rw [List.nil_append]
    cases readTokens read index us <;> rfl
  | cons token rest ih =>
    rw [List.cons_append, readTokens, readTokens]
    cases read token with
    | error fault => rfl
    | ok a =>
      show (readTokens read (index + 1) (rest ++ us)).map (a :: ·) =
        together _ _ ((readTokens read (index + 1) rest).map (a :: ·)) _
      rw [ih, readTokens_later index 1 us]
      cases readTokens read (index + 1) rest with
      | error e => rfl
      | ok as =>
        cases readTokens read index us with
        | error e => simp [together, Except.map, Except.mapError, TokenError.later, Nat.add_assoc, Nat.add_comm 1]
        | ok bs => rfl

/-- The law is kept by a function that puts results together as they are put together. -/
theorem map_together {β : Type} {n : Nat} {put : α → α → α} {put' : β → β → β} {f : α → β}
    {x y : Except TokenError α} (h : ∀ a b, x = .ok a → y = .ok b → f (put a b) = put' (f a) (f b)) :
    (together n put x y).map f = together n put' (x.map f) (y.map f) := by
  cases x with
  | error e => rfl
  | ok a =>
    cases y with
    | error e => rfl
    | ok b => exact congrArg Except.ok (h a b rfl rfl)

/-! ## Canonical forms -/

/-- Parts that are not empty are joined as what they make up is. -/
theorem intercalate_append {ps qs : List Text} (hp : ∀ p ∈ ps, p ≠ []) (hq : ∀ q ∈ qs, q ≠ []) :
    [' '].intercalate (ps ++ qs) = joined ([' '].intercalate ps) ([' '].intercalate qs) := by
  by_cases hps : ps = []
  · subst hps
    simp [joined]
  · by_cases hqs : qs = []
    · subst hqs
      simp [joined]
    · rw [joined, if_neg (not_or.2 ⟨Text.intercalate_ne_nil hp hps, Text.intercalate_ne_nil hq hqs⟩),
        Text.intercalate_append_of_ne_nil hps hqs]

theorem canonicalDigits_ne_nil (digits : Text) : canonicalDigits digits ≠ [] := by
  unfold canonicalDigits
  split
  · simp
  · simp
  · assumption

theorem ne_nil_of_canonical {token written : Text} (h : canonical token = .ok written) : written ≠ [] := by
  simp only [canonical] at h
  split_ifs at h
  cases h
  exact canonicalDigits_ne_nil _

theorem ne_nil_of_readTokens {index : Nat} {ts parts : List Text} (h : readTokens canonical index ts = .ok parts) :
    ∀ p ∈ parts, p ≠ [] := by
  have hall := readTokens_eq_ok_iff.1 h
  clear h
  induction hall with
  | nil => simp
  | cons hread _ ih => exact List.forall_mem_cons.2 ⟨ne_nil_of_canonical hread, ih⟩

/-! ## Main result -/

theorem isSeparator_iff {c : Char} : isSeparator c = true ↔ c = ',' ∨ Text.isBlank c = true := by
  rw [isSeparator, Bool.or_eq_true, beq_iff_eq]

/-- **Reading turns concatenation at a separator into concatenation.** The tokens of two lists with a comma or a blank
between them are those of the first and those of the second. If the first list fails, both fail with its error; else
if the second does, with the error of the second, later by the tokens of the first; else the canonical forms are
joined by one space, or by none where one of them is empty, and the bytes stand one after the other. -/
theorem reading_append_separator (a b : Text) {c : Char} (h : c = ',' ∨ Text.isBlank c = true) :
    tokens (a ++ c :: b) = tokens a ++ tokens b ∧
    normalize (a ++ c :: b) = together (tokens a).length joined (normalize a) (normalize b) ∧
    parseBytes (a ++ c :: b) = together (tokens a).length (· ++ ·) (parseBytes a) (parseBytes b) := by
  have hcut : tokens (a ++ c :: b) = tokens a ++ tokens b := tokens_append_separator (isSeparator_iff.2 h) a b
  refine ⟨hcut, ?_, ?_⟩
  · rw [normalize, hcut, readTokens_append]
    exact map_together fun _ _ hx hy => intercalate_append (ne_nil_of_readTokens hx) (ne_nil_of_readTokens hy)
  · rw [parseBytes, hcut, readTokens_append]
    rfl

/-- A first list of separators only adds nothing, not even a space; a second one moves the error. -/
theorem reading_append_separator_spaced :
    ('\u2028' = ',' ∨ Text.isBlank '\u2028' = true) ∧
    normalize (" ,\t".toList ++ '\u2028' :: "0x1, fF".toList) = .ok "01 ff".toList ∧
    normalize ("0x1, fF".toList ++ '\u2028' :: ",100".toList) = .ok "01 ff 100".toList ∧
    normalize ("0x1, fF".toList ++ '\u2028' :: ",7 zz".toList) = .error ⟨3, .notHex "zz".toList⟩ ∧
    parseBytes ("0x1, fF".toList ++ '\u2028' :: ",100".toList) = .error ⟨2, .tooWide "100".toList⟩ := by
  have h : '\u2028' = ',' ∨ Text.isBlank '\u2028' = true := Or.inr (by decide)
  refine ⟨h, ?_, ?_, ?_, ?_⟩
  · rw [(reading_append_separator _ _ h).2.1]
    decide
  · rw [(reading_append_separator _ _ h).2.1]
    decide
  · rw [(reading_append_separator _ _ h).2.1]
    decide
  · rw [(reading_append_separator _ _ h).2.2]
    decide

end DeviceDump.Hex
