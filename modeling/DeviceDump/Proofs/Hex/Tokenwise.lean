/-
A list against its tokens taken one by one. Reading a list cuts it at commas and blanks; reading a single token only
trims it. The two agree, since what is cut out of a list has no blanks left to trim, and what is read as a token holds
neither a comma nor a blank inside.
- `readTokens_eq_ok_iff`: reading a list gives the readings of its tokens, in order.
- `canonical_eq_error_iff`: a token of a list is refused for one reason only, and is shown as it is written.
- `normalize_of_normalizeToken`: a single token is a list of one, whatever blanks are around it.
- `normalizeToken_empty_iff`: there is no token just if there are only blanks.
- `normalize_tokenwise`: all of it in one statement.
-/
import DeviceDump.Proofs.Hex.Normalize

namespace DeviceDump.Hex

/-! ## Lists and their tokens -/

theorem readTokens_eq_ok_iff {α : Type} {read : Text → Except Fault α} {index : Nat} {ts : List Text} {as : List α} :
    readTokens read index ts = .ok as ↔ List.Forall₂ (fun token a => read token = .ok a) ts as := by
  induction ts generalizing index as with
  | nil =>
    rw [List.forall₂_nil_left_iff, readTokens]
    simp [eq_comm]
  | cons token rest ih =>
    have htail : ∀ others, readTokens read (index + 1) rest = .ok others ↔
        List.Forall₂ (fun token a => read token = .ok a) rest others := fun _ => ih
    rw [List.forall₂_cons_left_iff, readTokens]
    simp only [← htail]
    cases read token with
    | error fault => simp
    | ok a => cases readTokens read (index + 1) rest <;> simp [Except.map, eq_comm]

/-! ## Single tokens -/

/-- a token that has a canonical form by itself -/
def Accepted (token : Text) : Prop := ∃ written, normalizeToken token = .ok written

theorem normalizeToken_eq_ok_iff {token written : Text} :
    normalizeToken token = .ok written ↔ canonical token = .ok written := by
  rw [normalizeToken]
  cases canonical token <;> simp

theorem normalizeToken_eq_error_iff {token : Text} {e : TokenError} :
    normalizeToken token = .error e ↔ e.index = 0 ∧ canonical token = .error e.fault := by
  obtain ⟨index, fault⟩ := e
  rw [normalizeToken]
  cases canonical token <;> simp [eq_comm]

/-- A token of a list is refused as no hexadecimal number, and as it is written. -/
theorem canonical_eq_error_iff {token : Text} (ht : IsToken token) {fault : Fault} :
    canonical token = .error fault ↔ ¬ Accepted token ∧ fault = .notHex token := by
  rw [Accepted, normalizeToken_isOk_iff ht]
  by_cases h : Readable token
  · simp [canonical_of_readable ht h, h]
  · simp [canonical_of_not_readable ht h, h, eq_comm]

/-- Trimming comes first, so a token trimmed before gives the same. -/
theorem canonical_trim (t : Text) : canonical t.trim = canonical t := by
  rw [canonical, canonical, Text.trim_trim]

theorem readable_trim_of_canonical {t written : Text} (h : canonical t = .ok written) : Readable t.trim := by
  simp only [canonical] at h
  split_ifs at h with hempty hdigits
  rw [Bool.or_eq_true, not_or, Bool.not_eq_true, Bool.not_eq_true, Bool.not_eq_false'] at hdigits
  exact ⟨List.isEmpty_eq_false_iff.1 hdigits.1, List.all_eq_true.1 hdigits.2⟩

/-- What stands before the digits of a token is a marker or nothing, in any case no separator. -/
theorem exists_marker (t : Text) :
    ∃ marker : Text, (∀ c ∈ marker, isSeparator c = false) ∧ marker ++ digitsOf t = t := by
  unfold digitsOf
  split
  · exact ⟨['0', 'x'], List.forall_mem_cons.2 ⟨by decide, List.forall_mem_singleton.2 (by decide)⟩, rfl⟩
  · exact ⟨['0', 'X'], List.forall_mem_cons.2 ⟨by decide, List.forall_mem_singleton.2 (by decide)⟩, rfl⟩
  · exact ⟨[], List.forall_mem_nil _, rfl⟩

theorem isToken_of_readable {t : Text} (h : Readable t) : IsToken t := by
  obtain ⟨marker, hmarker, ht⟩ := exists_marker t
  rw [← ht]
  refine ⟨fun hnil => h.1 (List.append_eq_nil_iff.1 hnil).2, fun c hc => ?_⟩
  rcases List.mem_append.1 hc with hc | hc
  · exact hmarker c hc
  · exact isSeparator_of_isDigit (h.2 c hc)

/-- **A single token is a list of one**, whatever blanks are around it. -/
theorem normalize_of_normalizeToken {t written : Text} (h : normalizeToken t = .ok written) :
    normalize t = .ok written := by
  rw [normalizeToken_eq_ok_iff] at h
  have ht : IsToken t.trim := isToken_of_readable (readable_trim_of_canonical h)
  have hone : tokens t = [t.trim] := by rw [← tokens_trim, tokens_of_isToken ht]
  have hread : readTokens canonical 0 (tokens t) = .ok [written] := by
    rw [readTokens_eq_ok_iff, hone]
    exact .cons ((canonical_trim t).trans h) .nil
  rw [normalize, hread]
  show Except.ok ([' '].intercalate [written]) = _
  rw [List.intercalate_singleton]

theorem canonical_eq_empty_iff {t : Text} : canonical t = .error .empty ↔ Text.AllBlank t := by
  rw [← Text.trim_eq_nil_iff]
  simp only [canonical]
  split_ifs with hempty hdigits <;> simpa using hempty

/-- **No token is found just where there are only blanks.** -/
theorem normalizeToken_empty_iff {t : Text} {index : Nat} :
    normalizeToken t = .error ⟨index, .empty⟩ ↔ index = 0 ∧ Text.AllBlank t := by
  rw [normalizeToken_eq_error_iff, canonical_eq_empty_iff]

/-! ## Main result -/

variable {input : Text}

/-- A list has the canonical forms of its tokens, with single spaces between them. -/
theorem normalize_ok_iff_forall₂ {out : Text} : normalize input = .ok out ↔
    ∃ parts, List.Forall₂ (fun token part => normalizeToken token = .ok part) (tokens input) parts ∧
      out = [' '].intercalate parts := by
  have hread : ∀ parts, readTokens canonical 0 (tokens input) = .ok parts ↔
      List.Forall₂ (fun token part => canonical token = .ok part) (tokens input) parts := fun _ => readTokens_eq_ok_iff
  simp only [normalizeToken_eq_ok_iff, ← hread]
  rw [normalize]
  cases readTokens canonical 0 (tokens input) with
  | error e => simp [Except.map]
  | ok parts => simp [Except.map, eq_comm]

/-- A list is refused at its first token that is refused. -/
theorem normalize_error_iff {e : TokenError} : normalize input = .error e ↔
    ∃ before token after, tokens input = before ++ token :: after ∧ (∀ t ∈ before, Accepted t) ∧ ¬ Accepted token ∧
      e = ⟨before.length, .notHex token⟩ := by
  rw [normalize, Except.map_eq_error_iff,
    readTokens_error_iff fun token ht fault => canonical_eq_error_iff (isToken_of_mem ht), FirstFault]
  constructor
  · rintro ⟨before, token, after, hcut, hbefore, ⟨htoken, hfault⟩, hindex⟩
    refine ⟨before, token, after, hcut, fun t ht => ?_, htoken, ?_⟩
    · by_contra hno
      exact hbefore t ht _ ⟨hno, rfl⟩
    · rw [Nat.zero_add] at hindex
      rw [← hindex, ← hfault]
  · rintro ⟨before, token, after, hcut, hbefore, htoken, rfl⟩
    exact ⟨before, token, after, hcut, fun t ht fault hf => hf.1 (hbefore t ht), ⟨htoken, rfl⟩, (Nat.zero_add _).symm⟩

/-- what the canonical form of a list has to do with that of each token by itself -/
structure Tokenwise (input : Text) : Prop where
  /-- it is that of the tokens, in order and with single spaces between them -/
  ok_iff : ∀ out, normalize input = .ok out ↔
    ∃ parts, List.Forall₂ (fun token part => normalizeToken token = .ok part) (tokens input) parts ∧
      out = [' '].intercalate parts
  /-- there is one just if every token has one -/
  isOk_iff : (∃ out, normalize input = .ok out) ↔ ∀ token ∈ tokens input, Accepted token
  /-- else the first token that has none is at fault, as it is written, with the number of tokens before it -/
  error_iff : ∀ e, normalize input = .error e ↔
    ∃ before token after, tokens input = before ++ token :: after ∧ (∀ t ∈ before, Accepted t) ∧ ¬ Accepted token ∧
      e = ⟨before.length, .notHex token⟩
  /-- no list is at fault for an empty token or for one that is too wide -/
  notHex : ∀ e, normalize input = .error e → e.fault ≠ .empty ∧ ∀ token, e.fault ≠ .tooWide token
  /-- a single token has the canonical form that it has as a list -/
  single : ∀ written, normalizeToken input = .ok written → normalize input = .ok written
  /-- and is missing just if there are only blanks -/
  empty_iff : ∀ index, normalizeToken input = .error ⟨index, .empty⟩ ↔ index = 0 ∧ Text.AllBlank input

/-- **Lists are brought into canonical form token by token.** The canonical form of a list consists of those of its
tokens; a list with a token that has none is refused at the first such token. -/
theorem normalize_tokenwise (input : Text) : Tokenwise input where
  ok_iff _ := normalize_ok_iff_forall₂
  isOk_iff := by
    rw [normalize_isOk_iff]
    exact forall₂_congr fun token ht => (normalizeToken_isOk_iff (isToken_of_mem ht)).symm
  error_iff _ := normalize_error_iff
  notHex e h := by
    obtain ⟨before, token, after, -, -, -, rfl⟩ := normalize_error_iff.1 h
    exact ⟨nofun, nofun⟩
  single _ := normalize_of_normalizeToken
  empty_iff _ := normalizeToken_empty_iff

example : normalize "01,,\t0x0Xf ,zz".toList = .error ⟨1, .notHex "0x0Xf".toList⟩ := by decide

end DeviceDump.Hex
