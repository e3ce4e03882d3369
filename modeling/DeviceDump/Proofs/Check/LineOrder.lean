/-
The same lines in another order. Where no two lines give the same name (`NamedOnce`), no line hides another: a name has
the value that the one line giving it is read as (`lastReads_iff_of_namedOnce`), wherever that line stands. So look-ups
do not depend on the order of the lines, and checks see a record through look-ups only.
- `exists_parse_iff_of_perm`: both texts are read, or neither.
- `get?_eq_of_perm`, `size_eq_of_get?_eq`: the records have the same fields, but perhaps in another order.
- `parse_perm_same_report`: checks find the same, in the same order.
-/
import DeviceDump.Proofs.Check.Acceptance
import Mathlib.Data.List.Nodup

namespace DeviceDump

namespace Record

/-- Records with the same look-ups have the same number of fields. -/
theorem Indexed.size_eq_of_get?_eq {r s : Record} (hr : r.Indexed) (hs : s.Indexed)
    (h : ∀ name, r.get? name = s.get? name) : r.size = s.size := by
  have hmem : ∀ name, name ∈ r.names ↔ name ∈ s.names := by
    intro name
    rw [← hr.contains_iff, ← hs.contains_iff, contains, contains, h]
  have hp : r.names.Perm s.names := (List.perm_ext_iff_of_nodup hr.distinct hs.distinct).2 hmem
  rw [← length_names, ← length_names, hp.length_eq]

/-- Records with the same look-ups look alike to every check. -/
theorem alike_of_get?_eq {r s : Record} (h : ∀ name, r.get? name = s.get? name) : s.Alike r where
  present name _ := by rw [contains, contains, h]
  integers name _ := by rw [integer?, integer?, h]

end Record

namespace Dump

/-! ## Lines of different names -/

/-- no name is given by two of the lines -/
def NamedOnce (lines : List Text) : Prop :=
  lines.Pairwise fun line other => ∀ name, (∃ raw, Gives line name raw) → ¬ ∃ raw, Gives other name raw

theorem exists_gives_iff {line : Text} {name : Name} :
    (∃ raw, Gives line name raw) ↔ Prod.fst <$> entry? line = some name := by
  simp [gives_iff]

theorem namedOnce_iff {lines : List Text} :
    NamedOnce lines ↔ (lines.filterMap fun line => Prod.fst <$> entry? line).Nodup := by
  simp only [NamedOnce, exists_gives_iff]
  rw [List.Nodup, List.pairwise_filterMap]
  refine List.Pairwise.iff fun line other => ?_
  constructor
  · rintro h name hn _ ho rfl
    exact h name hn ho
  · intro h name hn ho
    exact h name hn name ho rfl

instance (lines : List Text) : Decidable (NamedOnce lines) := decidable_of_iff _ namedOnce_iff.symm

theorem NamedOnce.perm {lines others : List Text} (h : NamedOnce lines) (hp : lines.Perm others) :
    NamedOnce others := by
  rw [namedOnce_iff] at h ⊢
  exact (hp.filterMap _).nodup_iff.1 h

/-- The ending of a line has no part in its name. -/
theorem NamedOnce.map_chomp {lines : List Text} (h : NamedOnce lines) : NamedOnce (lines.map Text.chomp) := by
  unfold NamedOnce at h ⊢
  rw [List.pairwise_map]
  simpa only [gives_chomp_iff] using h

/-- Where no name is given twice, every line that gives a name is the last that does. -/
theorem lastReads_iff_of_namedOnce {lines : List Text} (h : NamedOnce lines) {name : Name} {value : Value} :
    LastReads lines name value ↔ ∃ line ∈ lines, Reads line name value := by
  constructor
  · rintro ⟨before, line, after, rfl, hr, -⟩
    exact ⟨line, by simp, hr⟩
  · rintro ⟨line, hl, hr⟩
    obtain ⟨before, after, rfl⟩ := List.append_of_mem hl
    refine ⟨before, line, after, rfl, hr, ?_⟩
    rintro ⟨other, ho, hg⟩
    obtain ⟨raw, hline, -⟩ := hr
    have hpair := (List.pairwise_cons.1 (List.pairwise_append.1 h).2.1).1 other ho
    exact hpair name ⟨raw, hline⟩ hg

/-! ## Texts of the same lines -/

variable {text other : Text} {r s : Record}

theorem exists_parse_iff : (∃ r, parse text = .ok r) ↔
    ∀ line ∈ text.lines, line ≠ [] → ∃ name value, Reads line name value := by
  rw [← exists_allRead_iff]
  constructor
  · rintro ⟨r, h⟩
    obtain ⟨entries, hs, -⟩ := parse_ok_iff.1 h
    exact ⟨entries, allSay_iff_reads.1 hs⟩
  · rintro ⟨entries, h⟩
    exact ⟨_, parse_of_allSay (allSay_iff_reads.2 h)⟩

theorem exists_parse_iff_of_perm (hp : text.lines.Perm other.lines) :
    (∃ r, parse text = .ok r) ↔ ∃ s, parse other = .ok s := by
  rw [exists_parse_iff, exists_parse_iff]
  simp only [hp.mem_iff]

/-- A look-up in a record that was read gives what the last line of its name is read as. -/
theorem get?_eq_some_iff_lastReads (h : parse text = .ok r) {name : Name} {value : Value} :
    r.get? name = some value ↔ LastReads text.lines name value := by
  obtain ⟨entries, hs, rfl⟩ := parse_ok_iff.1 h
  rw [Record.get?_ofList, latest?_eq_some_iff (allSay_iff_reads.1 hs)]

theorem get?_eq_of_perm (hn : NamedOnce text.lines) (hp : text.lines.Perm other.lines) (hr : parse text = .ok r)
    (hs : parse other = .ok s) (name : Name) : r.get? name = s.get? name := by
  ext value
  calc r.get? name = some value
      ↔ LastReads text.lines name value := get?_eq_some_iff_lastReads hr
    _ ↔ ∃ line ∈ text.lines, Reads line name value := lastReads_iff_of_namedOnce hn
    _ ↔ ∃ line ∈ other.lines, Reads line name value := by simp only [hp.mem_iff]
    _ ↔ LastReads other.lines name value := (lastReads_iff_of_namedOnce (hn.perm hp)).symm
    _ ↔ s.get? name = some value := (get?_eq_some_iff_lastReads hs).symm

/-! ## Main result -/

/-- **The order of the lines does not matter to checks.** If some lines, each of a name of its own, are written in two
orders, then both texts are read or neither is; and if they are, the two records have as many fields, give the same
value for every name, and are checked with the same violations and the same confirmations, whatever is expected. -/
theorem parse_perm_same_report {lines others : List Text} (hl : ∀ line ∈ lines, line.OneLine)
    (hn : NamedOnce lines) (hp : lines.Perm others) :
    ((∃ r, parse (Text.lineSeq lines) = .ok r) ↔ ∃ s, parse (Text.lineSeq others) = .ok s) ∧
    ∀ r s, parse (Text.lineSeq lines) = .ok r → parse (Text.lineSeq others) = .ok s →
      r.size = s.size ∧ (∀ name, r.get? name = s.get? name) ∧
      ∀ e : Expectation, ∃ report report',
        parseAndCheck (Text.lineSeq lines) e = .ok report ∧ parseAndCheck (Text.lineSeq others) e = .ok report' ∧
        report.violations = report'.violations ∧ report.confirmations = report'.confirmations := by
  have ho : ∀ line ∈ others, line.OneLine := fun line hm => hl line (hp.mem_iff.2 hm)
  have hlines : (Text.lineSeq lines).lines.Perm (Text.lineSeq others).lines := by
    rw [Text.lines_lineSeq hl, Text.lines_lineSeq ho]
    exact hp.map Text.chomp
  have hnamed : NamedOnce (Text.lineSeq lines).lines := by
    rw [Text.lines_lineSeq hl]
    exact hn.map_chomp
  refine ⟨exists_parse_iff_of_perm hlines, fun r s hr hs => ?_⟩
  have hget : ∀ name, r.get? name = s.get? name := get?_eq_of_perm hnamed hlines hr hs
  refine ⟨(indexed_of_parse hr).size_eq_of_get?_eq (indexed_of_parse hs) hget, hget, fun e => ?_⟩
  have hf : Check.findings e r = Check.findings e s := findings_of_alike e (Record.alike_of_get?_eq hget) e.verbose
  exact ⟨e.check r, e.check s, parseAndCheck_ok_iff.2 ⟨r, hr, rfl⟩, parseAndCheck_ok_iff.2 ⟨s, hs, rfl⟩,
    congrArg (List.filterMap Finding.violation?) hf, congrArg (List.filterMap Finding.confirmation?) hf⟩

/-- five lines, one of them empty and one with a carriage return -/
def someLines : List Text := ["version: 2", "", "type:3\r", " token :9", "payload:beef"]

/-- what is wrong with the message of these lines -/
def someViolations : List Violation :=
  [Field.tokenLength, Field.code, Field.messageId, Field.uriPath, Field.contentFormat].map .missing ++
    [.type 3 .nonConfirmable, .version 2 1]

/-- the same lines from the last to the first -/
theorem parse_perm_same_report_reversed :
    (∀ line ∈ someLines, line.OneLine) ∧ NamedOnce someLines ∧ someLines.Perm someLines.reverse ∧
    ∃ report, parseAndCheck (Text.lineSeq someLines.reverse) {} = .ok report ∧ report.violations = someViolations := by
  have hl : ∀ line ∈ someLines, line.OneLine := by decide
  have hn : NamedOnce someLines := by decide
  have hp : someLines.Perm someLines.reverse := (List.reverse_perm someLines).symm
  obtain ⟨hiff, hsame⟩ := parse_perm_same_report hl hn hp
  obtain ⟨r, hr⟩ : ∃ r, parse (Text.lineSeq someLines) = .ok r := ⟨_, rfl⟩
  obtain ⟨s, hs⟩ := hiff.1 ⟨r, hr⟩
  obtain ⟨-, -, hreport⟩ := hsame r s hr hs
  obtain ⟨report, report', h, h', hv, -⟩ := hreport {}
  refine ⟨hl, hn, hp, report', h', ?_⟩
  have hmap : (parseAndCheck (Text.lineSeq someLines) {}).map Report.violations = .ok someViolations := by rfl
  rw [h] at hmap
  rw [← hv]
  exact Except.ok.inj hmap

end Dump

end DeviceDump
