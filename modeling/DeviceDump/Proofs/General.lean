/-
Facts about outcomes and lists that know nothing of texts, records or dumps.
- Outcomes: a function applied to what there may be changes neither whether there is something nor the error.
- Lists by place: what stands at a place does not change by one more item at the end.
- Lists of pairs: where no key stands twice, a linear search finds exactly what is there.
- Lists cut at items: the pieces hold none of the items that were cut at, and there is one piece more than these.
-/
import Mathlib.Tactic

/-! ## Outcomes -/

namespace Except

variable {ε α β : Type}

/-- Where there is a result just under a condition, and then this one, so it is behind a function. -/
theorem map_eq_ok_iff_of_forall {x : Except ε α} {fit : Prop} {a : α} (h : ∀ b, x = .ok b ↔ fit ∧ b = a) (f : α → β)
    {c : β} : x.map f = .ok c ↔ fit ∧ c = f a := by
  cases x with
  | error e =>
    have hunfit : ¬ fit := by
      intro hf
      have := (h a).2 ⟨hf, rfl⟩
      cases this
    simp [Except.map, hunfit]
  | ok b =>
    obtain ⟨hf, rfl⟩ := (h b).1 rfl
    simp [Except.map, hf, eq_comm]

theorem map_eq_error_iff {x : Except ε α} (f : α → β) {e : ε} : x.map f = .error e ↔ x = .error e := by
  cases x <;> simp [Except.map]

end Except

namespace List

variable {α β : Type}

/-! ## Lists by place -/

theorem getElem?_concat_eq_some_iff {l : List α} {a b : α} {i : Nat} :
    (l ++ [a])[i]? = some b ↔ l[i]? = some b ∨ i = l.length ∧ b = a := by
  rw [getElem?_append]
  split_ifs with hlt
  · simp [Nat.ne_of_lt hlt]
  · have hnone : l[i]? = none := getElem?_eq_none (Nat.le_of_not_lt hlt)
    rw [hnone, getElem?_singleton]
    split_ifs with h0
    · have : i = l.length := by omega
      simp [this, eq_comm]
    · have : i ≠ l.length := by omega
      simp [this]

theorem getElem?_take_concat {l : List α} {i : Nat} {a : α} (h : l[i]? = some a) (b : α) :
    (l ++ [b])[i]? = some a ∧ (l ++ [b]).take i = l.take i := by
  have hi : i < l.length := (getElem?_eq_some_iff.1 h).1
  rw [getElem?_append_left hi, take_append_of_le_length hi.le]
  exact ⟨h, rfl⟩

theorem reverse_take_reverse_suffix (l : List α) (k : Nat) : (l.reverse.take k).reverse <:+ l := by
  have h := take_prefix k l.reverse
  simpa using reverse_suffix.2 h

theorem Forall₂.exists_of_mem {r : α → β → Prop} {as : List α} {bs : List β} (h : Forall₂ r as bs) {a : α}
    (ha : a ∈ as) : ∃ b, r a b := by
  induction h with
  | nil => cases ha
  | cons hr _ ih =>
    rcases mem_cons.1 ha with rfl | ha
    · exact ⟨_, hr⟩
    · exact ih ha

theorem lookup_eq_some_iff_mem [BEq α] [LawfulBEq α] {l : List (α × β)} (h : (l.map Prod.fst).Nodup) {a : α} {b : β} :
    l.lookup a = some b ↔ (a, b) ∈ l := by
  induction l with
  | nil => simp
  | cons e rest ih =>
    obtain ⟨key, value⟩ := e
    rw [map_cons, nodup_cons] at h
    rw [lookup_cons, mem_cons, ← ih h.2]
    by_cases hk : a = key
    · subst hk
      have hrest : rest.lookup a = none := by
        rw [lookup_eq_none_iff]
        intro p hp
        have : a ≠ p.1 := fun hp' => h.1 (mem_map.2 ⟨p, hp, hp'.symm⟩)
        simpa using this
      simp [hrest, eq_comm]
    · rw [beq_eq_false_iff_ne.2 hk]
      simp [hk]

/-! ## Lists cut at items -/

theorem forall_of_mem_splitOnP {p : α → Bool} {l piece : List α} (h : piece ∈ l.splitOnP p) :
    ∀ a ∈ piece, p a = false := by
  induction l generalizing piece with
  | nil =>
    rw [splitOnP_nil, mem_singleton] at h
    simp [h]
  | cons a rest ih =>
    obtain ⟨first, others, hr⟩ := exists_cons_of_ne_nil (splitOnP_ne_nil p rest)
    rw [splitOnP_cons_eq_if_modifyHead, hr] at h
    split_ifs at h with ha
    · rcases mem_cons.1 h with rfl | h
      · simp
      · exact ih (hr ▸ h)
    · rcases mem_cons.1 h with rfl | h
      · intro b hb
        rcases mem_cons.1 hb with rfl | hb
        · simpa using ha
        · exact ih (hr ▸ mem_cons_self) b hb
      · exact ih (hr ▸ mem_cons_of_mem first h)

theorem length_splitOnP (p : α → Bool) (l : List α) : (l.splitOnP p).length = l.countP p + 1 := by
  induction l with
  | nil => rfl
  | cons a rest ih =>
    rw [splitOnP_cons_eq_if_modifyHead]
    split_ifs with ha
    · rw [length_cons, ih, countP_cons_of_pos ha]
    · rw [length_modifyHead, ih, countP_cons_of_neg ha]

end List
