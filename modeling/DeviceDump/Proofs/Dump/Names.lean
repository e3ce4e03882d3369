/-
Names and the lines that give them. A line gives a name if that is what stands, trimmed, before its first colon
(`Gives`); its value is what the rest of the line is read as (`Reads`). Empty lines give nothing, and the numbers of
lines play no part.

So the entries of a dump can be told from its lines, without the record that holds them.
- `allSay_iff_reads`: a good dump has for its entries what its lines that are not empty are read as, in order.
- `mem_names_iff`: a name is among the entries just if some line gives it.
- `latest?_eq_some_iff`: the last value of a name is what the last line that gives the name is read as.
-/
import DeviceDump.Proofs.Dump.Meaning
import DeviceDump.Proofs.Text.Lines

namespace DeviceDump.Dump

/-! ## Single lines -/

/-- the line gives a name, with this text for its value: they stand on the two sides of its first colon -/
def Gives (line : Text) (name : Name) (raw : Text) : Prop :=
  ∃ before after : Text, line = before ++ ':' :: after ∧ ':' ∉ before ∧ before.trim = name ∧ after.trim = raw

/-- the line gives a name, and its text is read as this value -/
def Reads (line : Text) (name : Name) (value : Value) : Prop :=
  ∃ raw, Gives line name raw ∧ Value.decode name raw = .ok value

theorem gives_iff {line : Text} {name : Name} {raw : Text} : Gives line name raw ↔ entry? line = some (name, raw) := by
  constructor
  · rintro ⟨before, after, rfl, hb, rfl, rfl⟩
    exact entry?_append hb after
  · intro h
    by_cases hc : ':' ∈ line
    · obtain ⟨before, after, rfl, hb⟩ := List.eq_append_cons_of_mem hc
      rw [entry?_append hb, Option.some.injEq, Prod.mk.injEq] at h
      exact ⟨before, after, rfl, hb, h.1, h.2⟩
    · rw [entry?_of_not_mem hc] at h
      cases h

theorem gives_unique {line : Text} {n₁ n₂ : Name} {r₁ r₂ : Text} (h₁ : Gives line n₁ r₁) (h₂ : Gives line n₂ r₂) :
    n₁ = n₂ ∧ r₁ = r₂ := by
  have h := (gives_iff.1 h₁).symm.trans (gives_iff.1 h₂)
  rwa [Option.some.injEq, Prod.mk.injEq] at h

theorem ne_nil_of_gives {line : Text} {name : Name} {raw : Text} (h : Gives line name raw) : line ≠ [] := by
  obtain ⟨before, after, rfl, -⟩ := h
  simp

theorem says_ok_iff_reads {line : Text} {number : Nat} {name : Name} {value : Value} :
    Says line number (.ok (name, value)) ↔ Reads line name value := by
  rw [says_ok_iff]
  constructor
  · rintro ⟨before, after, h, hb, hn, hd⟩
    exact ⟨after.trim, ⟨before, after, h, hb, hn, rfl⟩, hd⟩
  · rintro ⟨raw, ⟨before, after, h, hb, hn, rfl⟩, hd⟩
    exact ⟨before, after, h, hb, hn, hd⟩

/-- A line that is read as a value gives no other name. -/
theorem Reads.eq_of_gives {line : Text} {name other : Name} {value : Value} {raw : Text} (h : Reads line name value)
    (hg : Gives line other raw) : name = other := by
  obtain ⟨text, ht, -⟩ := h
  exact (gives_unique ht hg).1

/-- A carriage return at the end of a line is no part of what it gives. -/
theorem gives_chomp_iff {line : Text} {name : Name} {raw : Text} : Gives line.chomp name raw ↔ Gives line name raw := by
  have hforward : ∀ {n : Name} {r : Text}, Gives line n r → Gives line.chomp n r := by
    rintro n r ⟨before, after, rfl, hb, hn, hr⟩
    rw [Text.chomp_append_cons (by decide)]
    exact ⟨before, after.chomp, rfl, hb, hn, (Text.trim_chomp after).trans hr⟩
  constructor
  · intro h
    have hc : ':' ∈ line := by
      obtain ⟨before, after, hl, -⟩ := h
      exact Text.mem_of_mem_chomp (hl ▸ by simp)
    obtain ⟨before', after', hl', hb'⟩ := List.eq_append_cons_of_mem hc
    have hg : Gives line (Text.trim before') (Text.trim after') := ⟨before', after', hl', hb', rfl, rfl⟩
    obtain ⟨hn, hr⟩ := gives_unique (hforward hg) h
    rwa [hn, hr] at hg
  · exact hforward

/-! ## Lines one after the other -/

/-- these entries are what the lines that are not empty are read as -/
def AllRead (lines : List Text) (entries : List (Name × Value)) : Prop :=
  List.Forall₂ (fun line entry => Reads line entry.1 entry.2) (lines.filter (!·.isEmpty)) entries

/-- Whether lines say something does not depend on their numbers. -/
theorem allSay_filter_iff {lines : List (Text × Nat)} {entries : List (Name × Value)} :
    AllSay (lines.filter (!·.1.isEmpty)) entries ↔ AllRead (lines.map Prod.fst) entries := by
  have hlines : (lines.map Prod.fst).filter (!·.isEmpty) = (lines.filter (!·.1.isEmpty)).map Prod.fst :=
    List.filter_map
  rw [AllRead, hlines, List.forall₂_map_left_iff]
  constructor
  · exact List.Forall₂.imp fun l entry => says_ok_iff_reads.1
  · exact List.Forall₂.imp fun l entry => says_ok_iff_reads.2

theorem allSay_iff_reads {dump : Text} {entries : List (Name × Value)} :
    AllSay (spokenLines dump) entries ↔ AllRead dump.lines entries := by
  rw [spokenLines, allSay_filter_iff, Text.numberedLines, List.zipIdx_map_fst]

/-- some line gives the name -/
def Named (lines : List Text) (name : Name) : Prop := ∃ line ∈ lines, ∃ raw, Gives line name raw

/-- the last line that gives the name is read as this value -/
def LastReads (lines : List Text) (name : Name) (value : Value) : Prop :=
  ∃ before line after, lines = before ++ line :: after ∧ Reads line name value ∧ ¬ Named after name

theorem named_cons {line : Text} {rest : List Text} {name : Name} :
    Named (line :: rest) name ↔ (∃ raw, Gives line name raw) ∨ Named rest name := by
  simp [Named]

theorem lastReads_cons {line : Text} {rest : List Text} {name : Name} {value : Value} :
    LastReads (line :: rest) name value ↔ LastReads rest name value ∨ ¬ Named rest name ∧ Reads line name value := by
  constructor
  · rintro ⟨before, l, after, hl, hr, hafter⟩
    cases before with
    | nil =>
      obtain ⟨rfl, rfl⟩ := List.cons.inj hl
      exact Or.inr ⟨hafter, hr⟩
    | cons first others =>
      obtain ⟨-, rfl⟩ := List.cons.inj hl
      exact Or.inl ⟨others, l, after, rfl, hr, hafter⟩
  · rintro (⟨before, l, after, rfl, hr, hafter⟩ | ⟨hrest, hr⟩)
    · exact ⟨line :: before, l, after, rfl, hr, hafter⟩
    · exact ⟨[], line, rest, rfl, hr, hrest⟩

/-! ## Lines and entries -/

theorem latest?_cons (entry : Name × Value) (rest : List (Name × Value)) (name : Name) :
    latest? (entry :: rest) name = (latest? rest name).or (if entry.1 = name then some entry.2 else none) := by
  obtain ⟨n, value⟩ := entry
  rw [latest?, List.reverse_cons, List.lookup_append, latest?]
  by_cases h : n = name
  · simp [h]
  · have : (name == n) = false := beq_eq_false_iff_ne.2 (Ne.symm h)
    simp [List.lookup_cons, h, this]

theorem latest?_eq_none_iff {entries : List (Name × Value)} {name : Name} :
    latest? entries name = none ↔ name ∉ entries.map Prod.fst := by
  induction entries with
  | nil => simp [latest?]
  | cons entry rest ih =>
    rw [latest?_cons, Option.or_eq_none_iff, ih, List.map_cons, List.mem_cons, not_or, and_comm]
    refine and_congr_left fun _ => ?_
    split_ifs with h
    · simp [h]
    · simp [Ne.symm h]

theorem allRead_nil_iff {entries : List (Name × Value)} : AllRead [] entries ↔ entries = [] := by
  rw [AllRead, List.filter_nil, List.forall₂_nil_left_iff]

/-- An empty line is passed over. -/
theorem allRead_empty_cons {rest : List Text} {entries : List (Name × Value)} :
    AllRead ([] :: rest) entries ↔ AllRead rest entries := Iff.rfl

theorem allRead_cons {line : Text} (h : line ≠ []) {rest : List Text} {entries : List (Name × Value)} :
    AllRead (line :: rest) entries ↔
      ∃ entry others, Reads line entry.1 entry.2 ∧ AllRead rest others ∧ entries = entry :: others := by
  rw [AllRead, List.filter_cons_of_pos (by simpa using h), List.forall₂_cons_left_iff]
  rfl

theorem allRead_concat {line : Text} (h : line ≠ []) {lines : List Text} {entries : List (Name × Value)} :
    AllRead (lines ++ [line]) entries ↔
      ∃ others entry, AllRead lines others ∧ Reads line entry.1 entry.2 ∧ entries = others ++ [entry] := by
  have hone : [line].filter (!·.isEmpty) = [line] := by simpa using h
  rw [AllRead, List.filter_append, hone]
  constructor
  · intro hall
    have hreverse := List.forall₂_reverse_iff.2 hall
    rw [List.reverse_concat, List.forall₂_cons_left_iff] at hreverse
    obtain ⟨entry, others, hr, hothers, hentries⟩ := hreverse
    refine ⟨others.reverse, entry, ?_, hr, ?_⟩
    · rw [AllRead, ← List.forall₂_reverse_iff, List.reverse_reverse]
      exact hothers
    · rw [← List.reverse_cons, ← hentries, List.reverse_reverse]
  · rintro ⟨others, entry, hothers, hr, rfl⟩
    exact List.rel_append hothers (.cons hr .nil)

variable {lines : List Text} {entries : List (Name × Value)} {name : Name}

theorem AllRead.exists_of_mem (h : AllRead lines entries) {line : Text} (hl : line ∈ lines) (hne : line ≠ []) :
    ∃ name value, Reads line name value := by
  have hm : line ∈ lines.filter (!·.isEmpty) := List.mem_filter.2 ⟨hl, by simpa using hne⟩
  obtain ⟨entry, hr⟩ := List.Forall₂.exists_of_mem h hm
  exact ⟨entry.1, entry.2, hr⟩

theorem mem_names_iff (h : AllRead lines entries) : name ∈ entries.map Prod.fst ↔ Named lines name := by
  induction lines generalizing entries with
  | nil =>
    rw [allRead_nil_iff.1 h]
    simp [Named]
  | cons line rest ih =>
    rw [named_cons]
    by_cases hl : line = []
    · subst hl
      have hno : ¬ ∃ raw, Gives [] name raw := fun ⟨_, hg⟩ => ne_nil_of_gives hg rfl
      rw [ih (allRead_empty_cons.1 h), or_iff_right hno]
    · obtain ⟨entry, others, hr, hrest, rfl⟩ := (allRead_cons hl).1 h
      have hgives : name = entry.1 ↔ ∃ raw, Gives line name raw := by
        constructor
        · rintro rfl
          obtain ⟨raw, hg, -⟩ := hr
          exact ⟨raw, hg⟩
        · rintro ⟨raw, hg⟩
          exact (hr.eq_of_gives hg).symm
      rw [List.map_cons, List.mem_cons, hgives, ih hrest]

/-- **The last line that gives a name decides its value.** -/
theorem latest?_eq_some_iff (h : AllRead lines entries) {value : Value} :
    latest? entries name = some value ↔ LastReads lines name value := by
  induction lines generalizing entries with
  | nil =>
    rw [allRead_nil_iff.1 h]
    simp [latest?, LastReads]
  | cons line rest ih =>
    rw [lastReads_cons]
    by_cases hl : line = []
    · subst hl
      have hno : ¬ (¬ Named rest name ∧ Reads [] name value) := by
        rintro ⟨-, raw, hg, -⟩
        exact ne_nil_of_gives hg rfl
      rw [ih (allRead_empty_cons.1 h), or_iff_left hno]
    · obtain ⟨entry, others, hr, hrest, rfl⟩ := (allRead_cons hl).1 h
      -- the line itself counts only if no later one gives the name
      have hlast : (if entry.1 = name then some entry.2 else none) = some value ↔ Reads line name value := by
        constructor
        · intro hif
          split_ifs at hif with hn
          cases hif
          exact hn ▸ hr
        · rintro ⟨raw, hg, hd⟩
          obtain rfl := hr.eq_of_gives hg
          obtain ⟨raw', hg', hd'⟩ := hr
          obtain ⟨-, rfl⟩ := gives_unique hg hg'
          rw [if_pos rfl]
          exact congrArg some (Except.ok.inj (hd'.symm.trans hd))
      rw [latest?_cons, Option.or_eq_some_iff, hlast, ih hrest, latest?_eq_none_iff, mem_names_iff hrest]

end DeviceDump.Dump
