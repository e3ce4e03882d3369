/-
What a dump means, said without the loop that reads it.

Every line that is not empty says something by itself (`Says`): that it is at fault, or a name and a value. The dump
fails with the fault of the first line that has one (`FirstFailure`). If none has (`AllSay`), the dump is the record
of all entries, inserted in the order of the lines.
- `run_append`: the loop invariant. After lines that all say something, the reading holds exactly their entries.
- `parse_error_iff`, `parse_ok_iff`: both outcomes of reading, each with its exact condition.
- `parse_meaning`: the whole meaning, down to the order of the names and the value of each.
-/
import DeviceDump.Proofs.Record.History
import DeviceDump.Record.Dump
import Mathlib.Data.List.TakeWhile

namespace DeviceDump.Dump

/-! ## What a line says -/

/-- what a line says by itself, given its number -/
inductive Says (line : Text) (number : Nat) : Except DumpError (Name × Value) → Prop where
  /-- without a colon the line is at fault, and it is shown as it stands -/
  | malformed (h : ':' ∉ line) : Says line number (.error (.malformedLine number line))
  /-- the first colon divides name and value, and both lose the blanks around them -/
  | field (before after : Text) (h : line = before ++ ':' :: after) (hb : ':' ∉ before) :
    Says line number ((Value.decode before.trim after.trim).map (before.trim, ·))

/-- the lines of a dump that are not empty, with their numbers; empty lines are counted -/
def spokenLines (dump : Text) : List (Text × Nat) := dump.numberedLines.filter (!·.1.isEmpty)

/-- all lines are good, and these are their entries -/
def AllSay (lines : List (Text × Nat)) (entries : List (Name × Value)) : Prop :=
  List.Forall₂ (fun l entry => Says l.1 l.2 (.ok entry)) lines entries

/-- some line is at fault, and this is the fault of the first one -/
def FirstFailure (lines : List (Text × Nat)) (e : DumpError) : Prop :=
  ∃ before line number after, lines = before ++ (line, number) :: after ∧
    (∀ l ∈ before, ∃ entry, Says l.1 l.2 (.ok entry)) ∧ Says line number (.error e)

theorem entry?_of_not_mem {line : Text} (h : ':' ∉ line) : entry? line = none := by
  have hd : line.dropWhile (· != ':') = [] := by
    rw [List.dropWhile_eq_nil_iff]
    intro c hc
    simpa using fun hcc : c = ':' => h (hcc ▸ hc)
  unfold entry?
  rw [hd]

theorem entry?_append {before : Text} (h : ':' ∉ before) (after : Text) :
    entry? (before ++ ':' :: after) = some (before.trim, after.trim) := by
  have hb : ∀ c ∈ before, (c != ':') = true := fun c hc => by
    simpa using fun hcc : c = ':' => h (hcc ▸ hc)
  have hd : (before ++ ':' :: after).dropWhile (· != ':') = ':' :: after := by
    rw [List.dropWhile_append_of_pos hb, List.dropWhile_cons_of_neg (by simp)]
  have ht : (before ++ ':' :: after).takeWhile (· != ':') = before := by
    rw [List.takeWhile_append_of_pos hb, List.takeWhile_cons_of_neg (by simp), List.append_nil]
  unfold entry?
  rw [hd, ht]

/-- A line says exactly what reading it gives, so it says one thing. -/
theorem says_iff {line : Text} {number : Nat} {outcome : Except DumpError (Name × Value)} :
    Says line number outcome ↔ readLine line number = outcome := by
  constructor
  · intro h
    cases h with
    | malformed h => rw [readLine, entry?_of_not_mem h]
    | field before after h hb => rw [readLine, h, entry?_append hb]
  · rintro rfl
    by_cases h : ':' ∈ line
    · obtain ⟨before, after, rfl, hb⟩ := List.eq_append_cons_of_mem h
      rw [readLine, entry?_append hb]
      exact .field before after rfl hb
    · rw [readLine, entry?_of_not_mem h]
      exact .malformed h

theorem says_unique {line : Text} {number : Nat} {o₁ o₂ : Except DumpError (Name × Value)} (h₁ : Says line number o₁)
    (h₂ : Says line number o₂) : o₁ = o₂ := (says_iff.1 h₁).symm.trans (says_iff.1 h₂)

theorem says_ok_iff {line : Text} {number : Nat} {name : Name} {value : Value} :
    Says line number (.ok (name, value)) ↔ ∃ before after : Text, line = before ++ ':' :: after ∧ ':' ∉ before ∧
      before.trim = name ∧ Value.decode name after.trim = .ok value := by
  constructor
  · intro h
    generalize ho : Except.ok (name, value) = outcome at h
    cases h with
    | malformed h => cases ho
    | field before after h hb =>
      cases hd : Value.decode before.trim after.trim with
      | error e =>
        rw [hd] at ho
        cases ho
      | ok v =>
        rw [hd] at ho
        cases ho
        exact ⟨before, after, h, hb, rfl, hd⟩
  · rintro ⟨before, after, h, hb, rfl, hd⟩
    have hs : Says line number _ := .field before after h hb
    rwa [hd] at hs

theorem says_error_iff {line : Text} {number : Nat} {e : DumpError} :
    Says line number (.error e) ↔ (':' ∉ line ∧ e = .malformedLine number line) ∨
      ∃ before after : Text, line = before ++ ':' :: after ∧ ':' ∉ before ∧
        Value.decode before.trim after.trim = .error e := by
  constructor
  · intro h
    generalize ho : Except.error e = outcome at h
    cases h with
    | malformed h => exact Or.inl ⟨h, Except.error.inj ho⟩
    | field before after h hb =>
      cases hd : Value.decode before.trim after.trim with
      | error e' =>
        rw [hd] at ho
        cases ho
        exact Or.inr ⟨before, after, h, hb, hd⟩
      | ok v =>
        rw [hd] at ho
        cases ho
  · rintro (⟨h, rfl⟩ | ⟨before, after, h, hb, hd⟩)
    · exact .malformed h
    · have hs : Says line number _ := .field before after h hb
      rwa [hd] at hs

theorem ne_nil_of_says_ok {line : Text} {number : Nat} {entry : Name × Value} (h : Says line number (.ok entry)) :
    line ≠ [] := by
  rintro rfl
  cases says_unique h (.malformed (List.not_mem_nil))

/-- Lines either all say something or have a first one at fault. -/
theorem allSay_or_firstFailure (lines : List (Text × Nat)) :
    (∃ entries, AllSay lines entries) ∨ ∃ e, FirstFailure lines e := by
  induction lines with
  | nil => exact Or.inl ⟨[], .nil⟩
  | cons l rest ih =>
    cases hl : readLine l.1 l.2 with
    | error e => exact Or.inr ⟨e, [], l.1, l.2, rest, rfl, by simp, says_iff.2 hl⟩
    | ok entry =>
      have hs : Says l.1 l.2 (.ok entry) := says_iff.2 hl
      rcases ih with ⟨entries, h⟩ | ⟨e, before, line, number, after, rfl, hb, he⟩
      · exact Or.inl ⟨entry :: entries, .cons hs h⟩
      · refine Or.inr ⟨e, l :: before, line, number, after, rfl, fun l' hl' => ?_, he⟩
        rcases List.mem_cons.1 hl' with rfl | hl'
        · exact ⟨entry, hs⟩
        · exact hb l' hl'

theorem allSay_of_forall {lines : List (Text × Nat)} (h : ∀ l ∈ lines, ∃ entry, Says l.1 l.2 (.ok entry)) :
    ∃ entries, AllSay lines entries := by
  rcases allSay_or_firstFailure lines with h' | ⟨e, before, line, number, after, rfl, -, he⟩
  · exact h'
  · obtain ⟨entry, hs⟩ := h (line, number) (by simp)
    cases says_unique hs he

theorem AllSay.exists_of_mem {lines : List (Text × Nat)} {entries : List (Name × Value)} (h : AllSay lines entries)
    {l : Text × Nat} (hl : l ∈ lines) : ∃ entry, Says l.1 l.2 (.ok entry) :=
  List.Forall₂.exists_of_mem h hl

/-! ## The loop -/

namespace Reading

/-- take in several entries -/
def addAll (r : Reading) (entries : List (Name × Value)) : Reading := entries.foldl (fun r e => r.add e.1 e.2) r

theorem add_record (r : Reading) (name : Name) (value : Value) :
    (r.add name value).record = r.record.insert name value := by
  rw [Record.insert, add]
  split
  simp only [*]
  split <;> rfl

theorem addAll_record (r : Reading) (entries : List (Name × Value)) :
    (r.addAll entries).record = r.record.insertAll entries := by
  induction entries generalizing r with
  | nil => rfl
  | cons e rest ih => exact (ih (r.add e.1 e.2)).trans (by rw [add_record]; rfl)

/-- empty lines change nothing -/
theorem run_filter (r : Reading) (lines : List (Text × Nat)) : r.run lines = r.run (lines.filter (!·.1.isEmpty)) := by
  induction lines generalizing r with
  | nil => rfl
  | cons l rest ih =>
    obtain ⟨line, number⟩ := l
    by_cases h : line.isEmpty = true
    · rw [run, if_pos h, List.filter_cons_of_neg (by simp [h])]
      exact ih r
    · rw [run, if_neg h, List.filter_cons_of_pos (by simpa using h), run, if_neg h]
      split
      · rfl
      · exact ih _

/-- After good lines the reading has taken in their entries and goes on with what follows. -/
theorem run_append {lines : List (Text × Nat)} {entries : List (Name × Value)} (h : AllSay lines entries)
    (r : Reading) (rest : List (Text × Nat)) : r.run (lines ++ rest) = (r.addAll entries).run rest := by
  induction h generalizing r with
  | nil => rfl
  | @cons l entry lines entries hs _ ih =>
    have hne : l.1.isEmpty ≠ true := by simpa using ne_nil_of_says_ok hs
    rw [List.cons_append, run, if_neg hne, says_iff.1 hs]
    exact ih _

end Reading

theorem scan_eq (dump : Text) : scan dump = Reading.run {} (spokenLines dump) := Reading.run_filter {} _

theorem scan_of_allSay {dump : Text} {entries : List (Name × Value)} (h : AllSay (spokenLines dump) entries) :
    scan dump = (Reading.addAll {} entries, none) := by
  have := Reading.run_append h {} []
  rwa [List.append_nil, ← scan_eq] at this

/-- A dump is read up to its first line at fault, and has then taken in what the lines before that say. -/
theorem scan_of_allSay_before {dump : Text} {before after : List (Text × Nat)} {line : Text} {number : Nat}
    {entries : List (Name × Value)} {e : DumpError} (h : spokenLines dump = before ++ (line, number) :: after)
    (hs : AllSay before entries) (he : Says line number (.error e)) :
    scan dump = (Reading.addAll {} entries, some e) := by
  have hne : line.isEmpty ≠ true := by
    have hm : (line, number) ∈ spokenLines dump := by rw [h]; simp
    simpa using (List.mem_filter.1 hm).2
  rw [scan_eq, h, Reading.run_append hs, Reading.run, if_neg hne, says_iff.1 he]

theorem parse_of_allSay {dump : Text} {entries : List (Name × Value)} (h : AllSay (spokenLines dump) entries) :
    parse dump = .ok (Record.ofList entries) := by
  rw [parse, scan_of_allSay h]
  exact congrArg Except.ok (Reading.addAll_record {} entries)

theorem parse_of_firstFailure {dump : Text} {e : DumpError} (h : FirstFailure (spokenLines dump) e) :
    parse dump = .error e := by
  obtain ⟨before, line, number, after, hl, hb, he⟩ := h
  obtain ⟨entries, hs⟩ := allSay_of_forall hb
  rw [parse, scan_of_allSay_before hl hs he]

/-- **Reading fails with the fault of the first line at fault**, and only so. -/
theorem parse_error_iff {dump : Text} {e : DumpError} :
    parse dump = .error e ↔ FirstFailure (spokenLines dump) e := by
  refine ⟨fun h => ?_, parse_of_firstFailure⟩
  rcases allSay_or_firstFailure (spokenLines dump) with ⟨entries, hs⟩ | ⟨e', he'⟩
  · rw [parse_of_allSay hs] at h
    cases h
  · rw [parse_of_firstFailure he'] at h
    cases h
    exact he'

/-- **A dump without a fault is the record of its entries**, and nothing else is read. -/
theorem parse_ok_iff {dump : Text} {r : Record} :
    parse dump = .ok r ↔ ∃ entries, AllSay (spokenLines dump) entries ∧ r = Record.ofList entries := by
  constructor
  · intro h
    rcases allSay_or_firstFailure (spokenLines dump) with ⟨entries, hs⟩ | ⟨e, he⟩
    · rw [parse_of_allSay hs] at h
      exact ⟨entries, hs, (Except.ok.inj h).symm⟩
    · rw [parse_of_firstFailure he] at h
      cases h
  · rintro ⟨entries, hs, rfl⟩
    exact parse_of_allSay hs

theorem indexed_of_parse {text : Text} {r : Record} (h : parse text = .ok r) : r.Indexed := by
  obtain ⟨entries, -, rfl⟩ := parse_ok_iff.1 h
  exact Record.ofList_indexed entries

/-! ## Main result -/

/-- **The meaning of a dump.** Every line says exactly one thing. If a line that is not empty is at fault, the dump
fails with the fault of the first such line. If none is, the dump is a record in which the names of the lines stand
once each, in the order of their first line, and each has the value of its last line. -/
theorem parse_meaning (dump : Text) :
    (∀ line number, ∃! outcome, Says line number outcome) ∧
    ((∃ l ∈ spokenLines dump, ∃ e, Says l.1 l.2 (.error e)) →
      ∃ e, parse dump = .error e ∧ FirstFailure (spokenLines dump) e) ∧
    ((¬ ∃ l ∈ spokenLines dump, ∃ e, Says l.1 l.2 (.error e)) →
      ∃ entries r, AllSay (spokenLines dump) entries ∧ parse dump = .ok r ∧
        r.toList.map Prod.fst = firstNames entries ∧
        ∀ field ∈ r.toList, latest? entries field.1 = some field.2) := by
  refine ⟨fun line number => ⟨_, says_iff.2 rfl, fun o ho => (says_iff.1 ho).symm⟩, ?_, ?_⟩
  · rintro ⟨l, hl, e, he⟩
    rcases allSay_or_firstFailure (spokenLines dump) with ⟨entries, hs⟩ | ⟨e', he'⟩
    · obtain ⟨entry, hok⟩ := hs.exists_of_mem hl
      cases says_unique hok he
    · exact ⟨e', parse_of_firstFailure he', he'⟩
  · intro h
    rcases allSay_or_firstFailure (spokenLines dump) with ⟨entries, hs⟩ | ⟨e, before, line, number, after, hl, -, he⟩
    · exact ⟨entries, Record.ofList entries, hs, parse_of_allSay hs, Record.names_ofList entries,
        fun field hf => Record.mem_toList_ofList.1 hf⟩
    · exact absurd ⟨(line, number), by rw [hl]; simp, e, he⟩ h

end DeviceDump.Dump
