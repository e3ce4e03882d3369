/-
Trimming. A text is its own trim just if neither end of it is blank (`trim_eq_self_iff`), trimming once is enough
(`trim_trim`), and what is left is a stretch of the text (`trim_isInfix`). Blanks around a text do not change its trim
(`Framed.trim_eq`), and every text is its trim with blanks around it (`framed_trim`). Digits are not blank, so numbers
and pairs of hexadecimal digits are their own trim.
-/
import DeviceDump.Text.Blank
import Mathlib.Data.List.DropRight
import Mathlib.Tactic

namespace DeviceDump.Text

theorem trimEnd_eq (t : Text) : trimEnd t = t.rdropWhile isBlank := rfl

theorem trimStart_eq_self_iff {t : Text} : trimStart t = t ↔ ∀ c ∈ t.head?, isBlank c = false := by
  cases t with
  | nil => simp [trimStart]
  | cons c rest => simp [trimStart, List.dropWhile_eq_self_iff]

theorem trimEnd_eq_self_iff {t : Text} : trimEnd t = t ↔ ∀ c ∈ t.getLast?, isBlank c = false := by
  rw [trimEnd_eq, List.rdropWhile_eq_self_iff]
  cases t with
  | nil => simp
  | cons c rest => simp [List.getLast?_eq_getLast_of_ne_nil]

/-- What trimming leaves is a stretch of the text. -/
theorem trim_isInfix (t : Text) : trim t <:+: t :=
  ((List.rdropWhile_prefix isBlank (trimStart t)).isInfix).trans (List.dropWhile_suffix isBlank).isInfix

theorem mem_of_mem_trim {t : Text} {c : Char} (h : c ∈ trim t) : c ∈ t := (trim_isInfix t).subset h

theorem trim_eq_self_iff {t : Text} :
    trim t = t ↔ (∀ c ∈ t.head?, isBlank c = false) ∧ ∀ c ∈ t.getLast?, isBlank c = false := by
  rw [← trimStart_eq_self_iff, ← trimEnd_eq_self_iff]
  constructor
  · intro h
    have hs : trimStart t = t := by
      refine (List.dropWhile_suffix isBlank).eq_of_length_le ?_
      have hp : trim t <+: trimStart t := List.rdropWhile_prefix isBlank (trimStart t)
      have := hp.length_le
      rwa [h] at this
    refine ⟨hs, ?_⟩
    rwa [trim, hs] at h
  · rintro ⟨hs, he⟩
    rw [trim, hs, he]

/-- Trimming a second time changes nothing. -/
theorem trim_trim (t : Text) : trim (trim t) = trim t := by
  have hs : trimStart (trimStart t) = trimStart t := List.dropWhile_idempotent isBlank t
  rw [trim_eq_self_iff]
  constructor
  · -- a prefix of a text starts as the text does
    intro c hc
    obtain ⟨rest, hr⟩ := List.rdropWhile_prefix isBlank (trimStart t)
    refine trimStart_eq_self_iff.1 hs c ?_
    rw [← hr, List.head?_append_of_ne_nil]
    · exact hc
    · rintro hnil
      rw [trim, trimEnd_eq, hnil] at hc
      cases hc
  · exact trimEnd_eq_self_iff.1 (List.rdropWhile_idempotent isBlank (trimStart t))

theorem trim_of_forall {t : Text} (h : ∀ c ∈ t, isBlank c = false) : trim t = t :=
  trim_eq_self_iff.2 ⟨fun c hc => h c (List.mem_of_mem_head? hc), fun c hc => h c (List.mem_of_mem_getLast? hc)⟩

theorem withoutBlanks_of_forall {t : Text} (h : ∀ c ∈ t, isBlank c = false) : withoutBlanks t = t :=
  List.filter_eq_self.2 fun c hc => by simp [h c hc]

/-! ## Blanks around a text -/

/-- nothing but blanks -/
def AllBlank (t : Text) : Prop := ∀ c ∈ t, isBlank c = true

instance (t : Text) : Decidable (AllBlank t) := List.decidableBAll (isBlank · = true) t

theorem trim_blank_append {blanks : Text} (h : AllBlank blanks) (t : Text) :
    trim (blanks ++ t) = trim t := by
  rw [trim, trimStart, List.dropWhile_append_of_pos h]
  rfl

theorem trimEnd_append_blank {blanks : Text} (h : AllBlank blanks) (t : Text) :
    trimEnd (t ++ blanks) = trimEnd t := by
  have hr : ∀ c ∈ blanks.reverse, isBlank c = true := fun c hc => h c (List.mem_reverse.1 hc)
  rw [trimEnd, List.reverse_append, List.dropWhile_append_of_pos hr]
  rfl

theorem trim_append_blank {blanks : Text} (h : AllBlank blanks) (t : Text) :
    trim (t ++ blanks) = trim t := by
  rw [trim, trimStart, List.dropWhile_append]
  split_ifs with hb
  · -- nothing but blanks stands before the added ones
    have ht : trimStart t = [] := List.isEmpty_iff.1 hb
    rw [List.dropWhile_eq_nil_iff.2 h, trim, ht]
  · exact trimEnd_append_blank h (trimStart t)

/-- a text with blanks before and after it -/
inductive Framed (core : Text) : Text → Prop
  | intro (before after : Text) (hb : AllBlank before) (ha : AllBlank after) : Framed core (before ++ core ++ after)

theorem Framed.trim_eq {core t : Text} (h : Framed core t) : trim t = trim core := by
  cases h with
  | intro before after hb ha => rw [trim_append_blank ha, trim_blank_append hb]

theorem Framed.mem_or_isBlank {core t : Text} (h : Framed core t) {c : Char} (hc : c ∈ t) :
    c ∈ core ∨ isBlank c = true := by
  cases h with
  | intro before after hb ha =>
    rcases List.mem_append.1 hc with hc | hc
    · rcases List.mem_append.1 hc with hc | hc
      · exact Or.inr (hb c hc)
      · exact Or.inl hc
    · exact Or.inr (ha c hc)

/-- A text is its trim, with the blanks around it that trimming takes off. -/
theorem framed_trim (t : Text) : Framed (trim t) t := by
  have hstart : t.takeWhile isBlank ++ trimStart t = t := List.takeWhile_append_dropWhile
  have hend : trim t ++ (trimStart t).rtakeWhile isBlank = trimStart t := List.rdropWhile_append_rtakeWhile
  have hframed : Framed (trim t) (t.takeWhile isBlank ++ trim t ++ (trimStart t).rtakeWhile isBlank) :=
    .intro _ _ (fun _ hc => List.mem_takeWhile_imp hc) fun _ hc => List.mem_rtakeWhile_imp hc
  rwa [List.append_assoc, hend, hstart] at hframed

theorem trim_eq_nil_iff {t : Text} : trim t = [] ↔ AllBlank t := by
  constructor
  · intro h c hc
    rcases (framed_trim t).mem_or_isBlank hc with hm | hb
    · rw [h] at hm
      cases hm
    · exact hb
  · exact fun h => trim_append_blank h []

/-! ## Digits -/

theorem isBlank_of_isDigit {c : Char} (h : c.isDigit = true) : isBlank c = false := by
  have hc : 48 ≤ c.toNat ∧ c.toNat ≤ 57 := by
    simpa [Char.isDigit, UInt32.le_iff_toNat_le] using h
  simp [isBlank, inRanges, blankRanges]
  omega

theorem isBlank_digitChar {n : Nat} (h : n < 16) : isBlank (Nat.digitChar n) = false :=
  (by decide : ∀ n ∈ List.range 16, isBlank (Nat.digitChar n) = false) n (List.mem_range.2 h)

end DeviceDump.Text
