/-
Parts of a text with single spaces between them. What they make up is empty only if there are none
(`intercalate_ne_nil`), the parts of two such texts make up both with one more space between them
(`intercalate_append_of_ne_nil`), and the parts come back without the spaces if these are dropped
(`filter_intercalate`), or one by one if it is cut at separators, of which a space is one (`pieces_intercalate`).
-/
import DeviceDump.Proofs.Text.Blank

namespace DeviceDump.Text

variable {ps qs : List Text}

theorem intercalate_ne_nil (h : ∀ p ∈ ps, p ≠ []) (hne : ps ≠ []) : [' '].intercalate ps ≠ [] := by
  obtain ⟨p, rest, rfl⟩ := List.exists_cons_of_ne_nil hne
  have hp : p ≠ [] := h p List.mem_cons_self
  cases rest with
  | nil => simpa using hp
  | cons q rest => simp [List.intercalate_cons_cons, hp]

theorem intercalate_append_of_ne_nil (hp : ps ≠ []) (hq : qs ≠ []) :
    [' '].intercalate (ps ++ qs) = [' '].intercalate ps ++ ' ' :: [' '].intercalate qs := by
  induction ps with
  | nil => exact absurd rfl hp
  | cons p rest ih =>
    cases rest with
    | nil =>
      rw [List.singleton_append, List.intercalate_cons_of_ne_nil hq, List.intercalate_singleton, List.append_assoc,
        List.singleton_append]
    | cons next rest =>
      have hrest := ih (List.cons_ne_nil next rest)
      rw [List.cons_append] at hrest
      rw [List.cons_append, List.cons_append, List.intercalate_cons_cons, hrest, List.intercalate_cons_cons]
      simp

theorem pieces_of_unbroken {isSeparator : Char → Bool} {t : Text} (hne : t ≠ [])
    (h : ∀ c ∈ t, isSeparator c = false) : pieces isSeparator t = [t] := by
  rw [pieces, List.splitOnP_eq_singleton h]
  simp [hne]

/-- Parts with single spaces between them are cut where they were joined. -/
theorem pieces_intercalate {isSeparator : Char → Bool} (hspace : isSeparator ' ' = true)
    (h : ∀ p ∈ ps, p ≠ [] ∧ ∀ c ∈ p, isSeparator c = false) : pieces isSeparator ([' '].intercalate ps) = ps := by
  induction ps with
  | nil => rfl
  | cons p rest ih =>
    obtain ⟨⟨hne, hp⟩, hrest⟩ := List.forall_mem_cons.1 h
    have hone : pieces isSeparator p = [p] := pieces_of_unbroken hne hp
    cases rest with
    | nil => simpa using hone
    | cons q rest =>
      rw [List.intercalate_cons_cons, List.append_assoc, List.singleton_append, pieces_append_separator hspace, hone,
        ih hrest, List.singleton_append]

/-- Where spaces are dropped and everything else is kept, the parts are left, one after the other. -/
theorem filter_intercalate {keep : Char → Bool} (hspace : keep ' ' = false) (h : ∀ p ∈ ps, ∀ c ∈ p, keep c = true) :
    ([' '].intercalate ps).filter keep = ps.flatten := by
  induction ps with
  | nil => rfl
  | cons p rest ih =>
    have hp : p.filter keep = p := List.filter_eq_self.2 (h p List.mem_cons_self)
    cases rest with
    | nil => rw [List.intercalate_singleton, hp, List.flatten_singleton]
    | cons q rest =>
      have hrest := ih fun x hx => h x (List.mem_cons_of_mem p hx)
      rw [List.intercalate_cons_cons, List.filter_append, List.filter_append, hp, hrest, List.flatten_cons]
      simp [hspace]

/-- Parts without blanks leave none at the ends of what they make up. -/
theorem trim_intercalate (hne : ∀ p ∈ ps, p ≠ []) (h : ∀ p ∈ ps, ∀ c ∈ p, isBlank c = false) :
    trim ([' '].intercalate ps) = [' '].intercalate ps := by
  rw [trim_eq_self_iff]
  induction ps with
  | nil => simp
  | cons p rest ih =>
    obtain ⟨hp, hnerest⟩ := List.forall_mem_cons.1 hne
    obtain ⟨hpb, hrest⟩ := List.forall_mem_cons.1 h
    have hhead : ∀ c ∈ p.head?, isBlank c = false := fun c hc => hpb c (List.mem_of_mem_head? hc)
    cases rest with
    | nil =>
      rw [List.intercalate_singleton]
      exact ⟨hhead, fun c hc => hpb c (List.mem_of_mem_getLast? hc)⟩
    | cons q rest =>
      have hmade : [' '].intercalate (q :: rest) ≠ [] := intercalate_ne_nil hnerest (List.cons_ne_nil q rest)
      rw [List.intercalate_cons_cons, List.append_assoc, List.head?_append_of_ne_nil p hp,
        List.getLast?_append_of_ne_nil _ (by simp), List.getLast?_append_of_ne_nil _ hmade]
      exact ⟨hhead, (ih hnerest hrest).2⟩

end DeviceDump.Text
