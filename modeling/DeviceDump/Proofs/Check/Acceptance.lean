/-
Which texts are accepted, said of their lines alone: without the record that is read, and without the checks that are
made of it.

A text is acceptable (`Acceptable`) if every line that is not empty is read, every required field is given by some
line, and the last lines that give the type, the version and the token length are read as 1. Earlier lines of a field
do not matter once a later one gives it again.
- `integer_iff_lastReads`: in a record that was read, an integer field never holds another value.
- `parseValidated_iff_acceptable`: a text is accepted just if it is acceptable; otherwise it is rejected as unreadable
  or for exactly what the check of its record finds.
-/
import DeviceDump.Proofs.Check.Findings
import DeviceDump.Proofs.Dump.Names
import DeviceDump.Proofs.Text.Lines
import DeviceDump.Proofs.Value.Dumped

namespace DeviceDump

namespace Dump

/-! ## Records that were read -/

variable {text : Text} {entries : List (Name × Value)} {name : Name}

theorem contains_iff_named (h : AllRead text.lines entries) :
    (Record.ofList entries).contains name = true ↔ Named text.lines name := by
  rw [(Record.ofList_answersFor entries).contained, mem_names_iff h]

/-- What is read under the name of an integer field is an integer. -/
theorem exists_integer_of_lastReads (hk : Field.kind name = .integer) {value : Value}
    (h : LastReads text.lines name value) : ∃ n, value = .integer n := by
  obtain ⟨-, line, -, -, ⟨raw, -, hd⟩, -⟩ := h
  have hkind := (Value.decode_ok hd).1
  rw [hk] at hkind
  cases value with
  | integer n => exact ⟨n, rfl⟩
  | hex digits => cases hkind
  | ascii t => cases hkind

/-- The integer in a record that was read is that of the last line of its field. -/
theorem integer_iff_lastReads (h : AllRead text.lines entries) {n : Int64} :
    (Record.ofList entries).integer? name = some n ↔ LastReads text.lines name (.integer n) := by
  rw [← latest?_eq_some_iff h, ← Record.get?_ofList, Record.integer?]
  cases hg : (Record.ofList entries).get? name with
  | none => simp
  | some value => cases value <;> simp [Value.integer?]

/-- A required integer is as expected just if the last line of its field is read as the expected one. -/
theorem comparison_iff_lastReads (h : AllRead text.lines entries) (hk : Field.kind name = .integer)
    (hn : Named text.lines name) {expected : Int64} :
    (∀ actual, (Record.ofList entries).integer? name = some actual → actual = expected) ↔
      LastReads text.lines name (.integer expected) := by
  -- the field is there, so its look-up gives an integer that can be compared
  have hsome : ∃ n, (Record.ofList entries).integer? name = some n := by
    have hm := mt latest?_eq_none_iff.1 (not_not.2 ((mem_names_iff h).2 hn))
    obtain ⟨value, hv⟩ := Option.ne_none_iff_exists'.1 hm
    have hlast := (latest?_eq_some_iff h).1 hv
    obtain ⟨n, rfl⟩ := exists_integer_of_lastReads hk hlast
    exact ⟨n, (integer_iff_lastReads h).2 hlast⟩
  obtain ⟨n, hint⟩ := hsome
  rw [← integer_iff_lastReads h, hint]
  simp

/-! ## Main result -/

/-- a text that is accepted, told from its lines -/
structure Acceptable (text : Text) : Prop where
  /-- every line that is not empty has a colon and is read -/
  readable : ∀ line ∈ text.lines, line ≠ [] → ∃ name value, Reads line name value
  required : ∀ name ∈ Field.required, Named text.lines name
  type : LastReads text.lines Field.type (.integer 1)
  version : LastReads text.lines Field.version (.integer 1)
  tokenLength : LastReads text.lines Field.tokenLength (.integer 1)

theorem exists_allRead_iff :
    (∃ entries, AllRead text.lines entries) ↔ ∀ line ∈ text.lines, line ≠ [] → ∃ name value, Reads line name value := by
  constructor
  · rintro ⟨entries, h⟩ line hl hne
    have hm : line ∈ text.lines.filter (!·.isEmpty) := List.mem_filter.2 ⟨hl, by simpa using hne⟩
    obtain ⟨i, hi, rfl⟩ := List.getElem_of_mem hm
    exact ⟨_, _, h.get hi (h.length_eq ▸ hi)⟩
  · intro h
    have hs : ∃ entries, AllSay (spokenLines text) entries := by
      refine allSay_of_forall fun l hl => ?_
      obtain ⟨hm, hne⟩ := List.mem_filter.1 hl
      obtain ⟨name, value, hr⟩ := h l.1 (Text.mem_lines_of_mem_numberedLines hm) (by simpa using hne)
      exact ⟨(name, value), says_ok_iff_reads.2 hr⟩
    obtain ⟨entries, hs⟩ := hs
    exact ⟨entries, allSay_iff_reads.1 hs⟩

/-- The check of a record that was read finds nothing wrong just if the text is acceptable. -/
theorem violations_eq_nil_iff_acceptable (h : AllRead text.lines entries) :
    (({} : Expectation).check (Record.ofList entries)).violations = [] ↔ Acceptable text := by
  have hcode : ({} : Expectation).type.code = 1 := rfl
  rw [violations_eq_nil_iff, hcode]
  simp only [contains_iff_named h]
  constructor
  · rintro ⟨hreq, htype, hversion, hlength⟩
    exact
      { readable := exists_allRead_iff.1 ⟨entries, h⟩
        required := hreq
        type := (comparison_iff_lastReads h (by decide) (hreq _ (by decide))).1 htype
        version := (comparison_iff_lastReads h (by decide) (hreq _ (by decide))).1 hversion
        tokenLength := (comparison_iff_lastReads h (by decide) (hreq _ (by decide))).1 hlength }
  · intro ha
    exact ⟨ha.required, (comparison_iff_lastReads h (by decide) (ha.required _ (by decide))).2 ha.type,
      (comparison_iff_lastReads h (by decide) (ha.required _ (by decide))).2 ha.version,
      (comparison_iff_lastReads h (by decide) (ha.required _ (by decide))).2 ha.tokenLength⟩

theorem parseValidated_ok_iff_acceptable {r : Record} :
    parseValidated text = .ok r ↔ Acceptable text ∧ parse text = .ok r := by
  rw [parseValidated_ok_iff, and_comm]
  refine and_congr_left fun hp => ?_
  obtain ⟨entries, hs, rfl⟩ := parse_ok_iff.1 hp
  exact violations_eq_nil_iff_acceptable (allSay_iff_reads.1 hs)

theorem parseAndCheck_ok_iff {e : Expectation} {report : Report} :
    parseAndCheck text e = .ok report ↔ ∃ r, parse text = .ok r ∧ e.check r = report := by
  unfold parseAndCheck
  cases parse text <;> simp [Except.map]

/-- **Acceptance told from the lines.** A text is accepted just if it is acceptable, and then as the record that it
reads as. It is rejected as unreadable with the error of reading, just if reading fails; and as invalid just for what
reading and checking it reports, which then is something. -/
theorem parseValidated_iff_acceptable (text : Text) :
    (∀ r, parseValidated text = .ok r ↔ Acceptable text ∧ parse text = .ok r) ∧
    ((∃ r, parseValidated text = .ok r) ↔ Acceptable text) ∧
    (∀ e, parseValidated text = .error (.unreadable e) ↔ parse text = .error e) ∧
    ∀ violations, parseValidated text = .error (.invalid violations) ↔
      violations ≠ [] ∧ ∃ report, parseAndCheck text {} = .ok report ∧ report.violations = violations := by
  refine ⟨fun r => parseValidated_ok_iff_acceptable, ⟨?_, fun ha => ?_⟩, fun e => parseValidated_unreadable_iff,
    fun violations => ?_⟩
  · rintro ⟨r, h⟩
    exact (parseValidated_ok_iff_acceptable.1 h).1
  · obtain ⟨entries, h⟩ := exists_allRead_iff.2 ha.readable
    have hp := parse_of_allSay (allSay_iff_reads.2 h)
    exact ⟨_, parseValidated_ok_iff_acceptable.2 ⟨ha, hp⟩⟩
  · rw [parseValidated_invalid_iff]
    constructor
    · rintro ⟨r, hp, hne, hv⟩
      exact ⟨hne, _, parseAndCheck_ok_iff.2 ⟨r, hp, rfl⟩, hv⟩
    · rintro ⟨hne, report, hr, hv⟩
      obtain ⟨r, hp, rfl⟩ := parseAndCheck_ok_iff.1 hr
      exact ⟨r, hp, hne, hv⟩

end Dump

end DeviceDump
