/-
What reading a dump reports of the values that it loses. A line that gives a name again takes the place of an earlier
line; the record does not show that there was one, so nothing is left of it but the report.

A line repeats a name if an earlier line gives it, where names are compared without the blanks around them (`Repeats`).
Its report says the name, and the value that it had until then, which is what the last line before it that gives the
name is read as (`Reports`).
- `size_add`, `size_addAll`: each entry makes the record longer by a field or is reported, never both.
- `reportsRepeats_of_allRead`: after lines that can all be read, those that repeat a name have been reported, one each
  and in order.
- `scan_reports_repeats`: the same of whole dumps, with those that are read up to a line at fault.
-/
import DeviceDump.Log.Event
import DeviceDump.Proofs.Dump.Names

namespace DeviceDump.Dump

variable {lines : List Text} {line : Text} {name : Name} {raw : Text}

/-! ## Lines that repeat a name -/

/-- the line with this index gives a name that a line before it gives -/
def Repeats (lines : List Text) (i : Nat) : Prop :=
  ∃ line name raw, lines[i]? = some line ∧ Gives line name raw ∧ Named (lines.take i) name

/-- the event reports of the line with this index which name it gives, and which value the name had until then -/
def Reports (lines : List Text) (i : Nat) (e : Log.Event) : Prop :=
  ∃ line name raw previous, lines[i]? = some line ∧ Gives line name raw ∧ LastReads (lines.take i) name previous ∧
    e.level = .debug ∧ e.message = "duplicate field overwrites earlier value" ∧
    e.details = ([("field", .quoted name), ("previous", .plain previous.display)] : List (Text × Log.Detail))

/-- the events report the lines that repeat a name, one each and in order -/
def ReportsRepeats (lines : List Text) (events : List Log.Event) : Prop :=
  ∃ places : List Nat, places.Pairwise (· < ·) ∧ (∀ i, i ∈ places ↔ Repeats lines i) ∧
    List.Forall₂ (Reports lines) places events

theorem Repeats.lt_length {i : Nat} (h : Repeats lines i) : i < lines.length := by
  obtain ⟨l, -, -, hl, -⟩ := h
  exact (List.getElem?_eq_some_iff.1 hl).1

theorem LastReads.named {value : Value} (h : LastReads lines name value) : Named lines name := by
  obtain ⟨before, l, after, rfl, ⟨raw, hg, -⟩, -⟩ := h
  exact ⟨l, by simp, raw, hg⟩

theorem repeats_concat {i : Nat} : Repeats (lines ++ [line]) i ↔
    Repeats lines i ∨ i = lines.length ∧ ∃ name raw, Gives line name raw ∧ Named lines name := by
  constructor
  · intro h
    have hi := h.lt_length
    obtain ⟨l, n, r, hl, hg, hn⟩ := h
    rw [List.length_append, List.length_singleton] at hi
    rcases Nat.lt_succ_iff_lt_or_eq.1 hi with hi | rfl
    · rw [List.getElem?_append_left hi] at hl
      rw [List.take_append_of_le_length hi.le] at hn
      exact Or.inl ⟨l, n, r, hl, hg, hn⟩
    · rw [List.getElem?_concat_length, Option.some.injEq] at hl
      rw [List.take_left] at hn
      exact Or.inr ⟨rfl, n, r, hl ▸ hg, hn⟩
  · rintro (⟨l, n, r, hl, hg, hn⟩ | ⟨rfl, n, r, hg, hn⟩)
    · obtain ⟨hl', ht⟩ := List.getElem?_take_concat hl line
      exact ⟨l, n, r, hl', hg, ht ▸ hn⟩
    · exact ⟨line, n, r, List.getElem?_concat_length, hg, by rwa [List.take_left]⟩

theorem Reports.concat {i : Nat} {e : Log.Event} (h : Reports lines i e) (line : Text) :
    Reports (lines ++ [line]) i e := by
  obtain ⟨l, n, r, previous, hl, hg, hlast, he⟩ := h
  obtain ⟨hl', ht⟩ := List.getElem?_take_concat hl line
  exact ⟨l, n, r, previous, hl', hg, ht ▸ hlast, he⟩

variable {events : List Log.Event}

/-- A line that repeats no name needs no report. -/
theorem ReportsRepeats.concat_silent (h : ReportsRepeats lines events)
    (hno : ¬ ∃ name raw, Gives line name raw ∧ Named lines name) : ReportsRepeats (lines ++ [line]) events := by
  obtain ⟨places, hordered, hplaces, hevents⟩ := h
  refine ⟨places, hordered, fun i => ?_, hevents.imp fun i e he => he.concat line⟩
  rw [repeats_concat, hplaces, or_iff_left fun hi => hno hi.2]

/-- A line that repeats a name is reported behind all others. -/
theorem ReportsRepeats.concat_repeat (h : ReportsRepeats lines events) (hg : Gives line name raw) {previous : Value}
    (hlast : LastReads lines name previous) :
    ReportsRepeats (lines ++ [line]) (events ++ [.overwritten ⟨name, previous⟩]) := by
  obtain ⟨places, hordered, hplaces, hevents⟩ := h
  have hreport : Reports (lines ++ [line]) lines.length (.overwritten ⟨name, previous⟩) :=
    ⟨line, name, raw, previous, List.getElem?_concat_length, hg, by rwa [List.take_left], rfl, rfl, rfl⟩
  refine ⟨places ++ [lines.length], ?_, fun i => ?_, ?_⟩
  · rw [List.pairwise_append]
    refine ⟨hordered, List.pairwise_singleton _ _, fun i hi j hj => ?_⟩
    rw [List.mem_singleton.1 hj]
    exact ((hplaces i).1 hi).lt_length
  · rw [repeats_concat, List.mem_append, List.mem_singleton, hplaces]
    exact or_congr_right (iff_self_and.2 fun _ => ⟨name, raw, hg, hlast.named⟩)
  · exact List.rel_append (hevents.imp fun i e he => he.concat line) (.cons hreport .nil)

/-! ## Entries and overwrites -/

namespace Reading

/-- An entry is reported just if its name has a value, with this value. -/
theorem add_overwrites (r : Reading) (name : Name) (value : Value) : (r.add name value).overwrites.toList =
    r.overwrites.toList ++ ((r.record.get? name).map (Overwrite.mk name)).toList := by
  rw [← r.record.put_previous name value, add]
  rcases r.record.put name value with ⟨_ | previous, record⟩
  · exact (List.append_nil _).symm
  · exact Array.toList_push

/-- **An entry makes the record longer by a field or is reported**, never both. -/
theorem size_add {r : Reading} (h : r.record.Indexed) (name : Name) (value : Value) :
    (r.add name value).record.size + (r.add name value).overwrites.size = r.record.size + r.overwrites.size + 1 := by
  rw [add_record, h.size_insert, ← Array.length_toList, add_overwrites, List.length_append, Array.length_toList]
  cases r.record.get? name with
  | none =>
    rw [if_pos rfl, Option.map_none, Option.toList_none, List.length_nil]
    omega
  | some previous =>
    rw [if_neg (Option.some_ne_none previous), Option.map_some, Option.toList_some, List.length_singleton]
    omega

theorem size_addAll {r : Reading} (h : r.record.Indexed) (entries : List (Name × Value)) :
    (r.addAll entries).record.size + (r.addAll entries).overwrites.size =
      r.record.size + r.overwrites.size + entries.length := by
  induction entries generalizing r with
  | nil => rfl
  | cons entry rest ih =>
    have hnext : (r.add entry.1 entry.2).record.Indexed := by
      rw [add_record]
      exact Record.insert_indexed h entry.1 entry.2
    have hrest := ih hnext
    rw [size_add h] at hrest
    rw [addAll, List.foldl_cons, List.length_cons]
    rw [addAll] at hrest
    omega

theorem addAll_concat (r : Reading) (entries : List (Name × Value)) (entry : Name × Value) :
    r.addAll (entries ++ [entry]) = (r.addAll entries).add entry.1 entry.2 := by
  rw [addAll, List.foldl_concat, addAll]

theorem get?_addAll (entries : List (Name × Value)) (name : Name) :
    (addAll {} entries).record.get? name = latest? entries name := by
  rw [addAll_record]
  exact Record.get?_ofList entries name

end Reading

/-- the events of the overwrites of entries, taken in from the start -/
def overwriteEvents (entries : List (Name × Value)) : List Log.Event :=
  (Reading.addAll {} entries).overwrites.toList.map .overwritten

theorem overwriteEvents_concat (entries : List (Name × Value)) (name : Name) (value : Value) :
    overwriteEvents (entries ++ [(name, value)]) = overwriteEvents entries ++
      ((latest? entries name).map fun previous => .overwritten ⟨name, previous⟩).toList := by
  rw [overwriteEvents, Reading.addAll_concat, Reading.add_overwrites, Reading.get?_addAll, List.map_append]
  cases latest? entries name <;> rfl

/-! ## Dumps -/

/-- After lines that can all be read, those that repeat a name have been reported. -/
theorem reportsRepeats_of_allRead {entries : List (Name × Value)} (h : AllRead lines entries) :
    ReportsRepeats lines (overwriteEvents entries) := by
  induction lines using List.reverseRecOn generalizing entries with
  | nil =>
    rw [allRead_nil_iff.1 h]
    exact ⟨[], .nil, fun i => iff_of_false List.not_mem_nil fun hi => absurd hi.lt_length (Nat.not_lt_zero i), .nil⟩
  | append_singleton lines line ih =>
    by_cases hl : line = []
    · subst hl
      have hlines : AllRead lines entries := by
        rwa [AllRead, List.filter_append, List.filter_cons_of_neg (by simp), List.filter_nil, List.append_nil] at h
      apply (ih hlines).concat_silent
      intro hrepeat
      obtain ⟨_, _, hg, -⟩ := hrepeat
      exact ne_nil_of_gives hg rfl
    · obtain ⟨others, ⟨name, value⟩, hothers, hr, rfl⟩ := (allRead_concat hl).1 h
      rw [overwriteEvents_concat]
      obtain ⟨raw, hg, -⟩ : Reads line name value := hr
      -- whether there is a report depends on whether the name had a value
      cases hprevious : latest? others name with
      | none =>
        have hno : ¬ Named lines name := by rwa [← mem_names_iff hothers, ← latest?_eq_none_iff]
        rw [Option.map_none, Option.toList_none, List.append_nil]
        apply (ih hothers).concat_silent
        intro hrepeat
        obtain ⟨other, _, hother, hn⟩ := hrepeat
        rw [← (gives_unique hg hother).1] at hn
        exact hno hn
      | some previous => exact (ih hothers).concat_repeat hg ((latest?_eq_some_iff hothers).1 hprevious)

theorem length_entries {entries : List (Name × Value)} (h : AllRead lines entries) :
    (lines.filter (!·.isEmpty)).length = (Record.ofList entries).size + (overwriteEvents entries).length := by
  have hsize := Reading.size_addAll (r := {}) Record.empty_indexed entries
  rw [Reading.addAll_record] at hsize
  rw [h.length_eq, overwriteEvents, List.length_map, Array.length_toList]
  exact (hsize.trans (Nat.zero_add _)).symm

/-- Before a line that says something stand the earlier ones that do, and empty lines. -/
theorem lines_of_spokenLines {dump : Text} {number : Nat} {before after : List (Text × Nat)}
    (h : spokenLines dump = before ++ (line, number) :: after) :
    ∃ first rest, dump.lines = first ++ line :: rest ∧ number = first.length + 1 ∧ line ≠ [] ∧
      ∀ entries, AllSay before entries → AllRead first entries := by
  rw [spokenLines, List.filter_eq_append_iff] at h
  obtain ⟨first, others, hnumbered, rfl, hothers⟩ := h
  obtain ⟨skipped, rest, rfl, hskipped, hne, -⟩ := List.filter_eq_cons_iff.1 hothers
  rw [← List.append_assoc] at hnumbered
  obtain ⟨hlines, hnumber⟩ := Text.lines_of_numberedLines hnumbered
  refine ⟨_, _, hlines, by rw [hnumber, List.length_map], by simpa using hne, fun entries hs => ?_⟩
  rw [← allSay_filter_iff, List.filter_append, List.filter_eq_nil_iff.2 hskipped, List.append_nil]
  exact hs

/-- A dump that fails has been read up to its first line at fault. -/
theorem scan_of_parse_error {dump : Text} {e : DumpError} (h : parse dump = .error e) :
    ∃ before line after entries, dump.lines = before ++ line :: after ∧ AllRead before entries ∧ line ≠ [] ∧
      Says line (before.length + 1) (.error e) ∧ scan dump = (Reading.addAll {} entries, some e) := by
  obtain ⟨spoken, line, number, after, hspoken, hgood, he⟩ := parse_error_iff.1 h
  obtain ⟨entries, hs⟩ := allSay_of_forall hgood
  obtain ⟨before, rest, hlines, hnumber, hne, hread⟩ := lines_of_spokenLines hspoken
  exact ⟨before, line, rest, entries, hlines, hread entries hs, hne, hnumber ▸ he, scan_of_allSay_before hspoken hs he⟩

/-! ## Main result -/

/-- **No value is lost without a report.** Of a dump that is read to its end, each line that is not empty has become a
field or is reported; the reports are of the lines that repeat a name, in order, each with the value that the name had
until then, and after them only the number of fields is reported. Of a dump that fails, the same is reported as of the
lines before the one at fault. -/
theorem scan_reports_repeats (dump : Text) :
    (∀ r, parse dump = .ok r → ∃ events, Log.ofScan (scan dump) = events ++ [.parsedRecord r.size] ∧
      (dump.lines.filter (!·.isEmpty)).length = r.size + events.length ∧ ReportsRepeats dump.lines events) ∧
    ∀ e, parse dump = .error e → ∃ before line after, dump.lines = before ++ line :: after ∧
      (∀ l ∈ before, l ≠ [] → ∃ name value, Reads l name value) ∧
      line ≠ [] ∧ Says line (before.length + 1) (.error e) ∧ ReportsRepeats before (Log.ofScan (scan dump)) := by
  refine ⟨fun r h => ?_, fun e h => ?_⟩
  · obtain ⟨entries, hs, rfl⟩ := parse_ok_iff.1 h
    have hread : AllRead dump.lines entries := allSay_iff_reads.1 hs
    refine ⟨overwriteEvents entries, ?_, length_entries hread, reportsRepeats_of_allRead hread⟩
    rw [scan_of_allSay hs, Log.ofScan, Reading.addAll_record]
    rfl
  · obtain ⟨before, line, after, entries, hlines, hread, hne, he, hscan⟩ := scan_of_parse_error h
    refine ⟨before, line, after, hlines, fun l hl hl' => hread.exists_of_mem hl hl', hne, he, ?_⟩
    rw [hscan]
    exact reportsRepeats_of_allRead hread

/-- a dump with three lines for one field, spaced in different ways -/
def repeatingDump : Text := "code:1\n\n code :\t2\r\npayload:61\ncode:3\n"

/-- Two of the lines repeat a name, with or without a line at fault behind them. -/
theorem scan_reports_repeats_spaced :
    parse repeatingDump = .ok (.ofList [(Field.code, .integer 3), (Field.payload, .hex "61")]) ∧
    ReportsRepeats repeatingDump.lines
      [.overwritten ⟨Field.code, .integer 1⟩, .overwritten ⟨Field.code, .integer 2⟩] ∧
    ∃ before line after, (repeatingDump ++ ['x']).lines = before ++ line :: after ∧
      Says line (before.length + 1) (.error (.malformedLine 6 ['x'])) ∧
      ReportsRepeats before [.overwritten ⟨Field.code, .integer 1⟩, .overwritten ⟨Field.code, .integer 2⟩] := by
  have hok : parse repeatingDump = .ok (.ofList [(Field.code, .integer 3), (Field.payload, .hex "61")]) := rfl
  have herror : parse (repeatingDump ++ ['x']) = .error (.malformedLine 6 ['x']) := rfl
  obtain ⟨hgood, -⟩ := scan_reports_repeats repeatingDump
  obtain ⟨-, hbad⟩ := scan_reports_repeats (repeatingDump ++ ['x'])
  obtain ⟨events, hevents, -, hreports⟩ := hgood _ hok
  obtain ⟨before, line, after, hlines, -, -, he, hreports'⟩ := hbad _ herror
  have hlogged : Log.ofScan (scan repeatingDump) =
      [.overwritten ⟨Field.code, .integer 1⟩, .overwritten ⟨Field.code, .integer 2⟩] ++ [.parsedRecord 2] := rfl
  have hsame := List.append_inj_left' (hevents.symm.trans hlogged) rfl
  exact ⟨hok, hsame ▸ hreports, before, line, after, hlines, he, hreports'⟩

end DeviceDump.Dump
