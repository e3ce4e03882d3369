/-
What a check reports, said without the findings that the report is read off.

Every check that is made ends in one finding, so each of the two lists follows from which checks are made and which of
them fail, in the order of the checks. A required field is always looked for. An integer is compared only where there
is one; any other value under its name is passed over, as if there were none.
- `violations_check`, `confirmations_check`: both lists of a report.
- `length_violations_add_length_confirmations`: each check that is made is told once.
- `findings_of_alike`: what a check does not look at does not count.
- `check_reports_exactly`: all of it in one statement.
-/
import DeviceDump.Proofs.Check.Verdict

namespace DeviceDump

/-! ## Single checks -/

/-- What is picked from the findings about fields comes from the fields whose findings are picked. -/
theorem filterMap_presence {α : Type} {r : Record} {pick : Finding → Option α} {keep : Name → Bool} {make : Name → α}
    (h : ∀ field, pick (Check.presence r field) = if keep field then some (make field) else none) (fields : List Name) :
    (fields.map (Check.presence r)).filterMap pick = (fields.filter keep).map make := by
  rw [List.filterMap_map, ← List.filterMap_eq_map, List.filterMap_filter]
  exact congrArg (List.filterMap · fields) (funext h)

theorem filterMap_violation?_presence (r : Record) (fields : List Name) :
    (fields.map (Check.presence r)).filterMap Finding.violation? =
      (fields.filter (!r.contains ·)).map .missing := by
  apply filterMap_presence
  intro field
  unfold Check.presence
  cases r.contains field <;> rfl

theorem filterMap_confirmation?_presence (r : Record) (fields : List Name) :
    (fields.map (Check.presence r)).filterMap Finding.confirmation? = (fields.filter r.contains).map .present := by
  apply filterMap_presence
  intro field
  unfold Check.presence
  cases r.contains field <;> rfl

section Comparison

variable (actual? : Option Int64) (expected : Int64) (c : Confirmation) (v : Int64 → Violation)

/-- what comparing an integer with the expected one finds, if there is one -/
def comparison : Option Finding :=
  actual?.map fun actual => if actual = expected then .confirmed c else .violated (v actual)

theorem filterMap_violation?_comparison :
    (comparison actual? expected c v).toList.filterMap Finding.violation? =
      (actual?.filter (· ≠ expected)).toList.map v := by
  cases actual? with
  | none => rfl
  | some actual =>
    by_cases h : actual = expected
    · simp [comparison, h, Finding.violation?, Option.filter]
    · simp [comparison, h, Finding.violation?, Option.filter]

theorem filterMap_confirmation?_comparison :
    (comparison actual? expected c v).toList.filterMap Finding.confirmation? =
      if actual? = some expected then [c] else [] := by
  cases actual? with
  | none => rfl
  | some actual =>
    by_cases h : actual = expected
    · simp [comparison, h, Finding.confirmation?]
    · simp [comparison, h, Finding.confirmation?]

end Comparison

/-! ## All checks -/

/-- the fields whose integers are compared with the expected ones, in the order of the checks -/
def Field.compared : List Name := [type, version, tokenLength]

/-- what is wrong with a record: the required fields that it lacks, then the integers that are not the expected ones -/
def Expectation.violationsOf (e : Expectation) (r : Record) : List Violation :=
  (Field.required.filter (!r.contains ·)).map .missing ++
    ((r.integer? Field.type).filter (· ≠ e.type.code)).toList.map (.type · e.type) ++
    ((r.integer? Field.version).filter (· ≠ e.version)).toList.map (.version · e.version) ++
    ((r.integer? Field.tokenLength).filter (· ≠ e.tokenLength)).toList.map (.tokenLength · e.tokenLength)

/-- what is right with a record: the required fields that it has, then the integers that are the expected ones -/
def Expectation.confirmationsOf (e : Expectation) (r : Record) : List Confirmation :=
  (Field.required.filter r.contains).map .present ++
    (if r.integer? Field.type = some e.type.code then [.type e.type] else []) ++
    (if r.integer? Field.version = some e.version then [.version e.version] else []) ++
    (if r.integer? Field.tokenLength = some e.tokenLength then [.tokenLength e.tokenLength] else [])

variable (e : Expectation) (r : Record)

theorem violations_check : (e.check r).violations = e.violationsOf r := by
  show (Check.findings e r).filterMap Finding.violation? = _
  rw [Check.findings, List.filterMap_append, List.filterMap_append, List.filterMap_append,
    filterMap_violation?_presence]
  exact congrArg₂ _ (congrArg₂ _ (congrArg₂ _ rfl (filterMap_violation?_comparison ..))
    (filterMap_violation?_comparison ..)) (filterMap_violation?_comparison ..)

theorem confirmations_check : (e.check r).confirmations = e.confirmationsOf r := by
  show (Check.findings e r).filterMap Finding.confirmation? = _
  rw [Check.findings, List.filterMap_append, List.filterMap_append, List.filterMap_append,
    filterMap_confirmation?_presence]
  exact congrArg₂ _ (congrArg₂ _ (congrArg₂ _ rfl (filterMap_confirmation?_comparison ..))
    (filterMap_confirmation?_comparison ..)) (filterMap_confirmation?_comparison ..)

/-- Every finding is told in one of the two lists. -/
theorem length_violations_add_length_confirmations (report : Report) :
    report.violations.length + report.confirmations.length = report.findings.length := by
  unfold Report.violations Report.confirmations
  induction report.findings with
  | nil => rfl
  | cons f rest ih =>
    cases f with
    | confirmed c =>
      simp only [List.filterMap_cons, Finding.violation?, Finding.confirmation?, List.length_cons]
      omega
    | violated v =>
      simp only [List.filterMap_cons, Finding.violation?, Finding.confirmation?, List.length_cons]
      omega

theorem length_findings :
    (Check.findings e r).length = 8 + Field.compared.countP fun name => (r.integer? name).isSome := by
  have hsome : ∀ {α : Type} (o : Option α), o.toList.length = if o.isSome then 1 else 0 := fun o => by cases o <;> rfl
  simp only [Check.findings, List.length_append, List.length_map, hsome, Check.type, Check.version, Check.tokenLength,
    Option.isSome_map, Field.compared, List.countP_cons, List.countP_nil]
  have h8 : Field.required.length = 8 := rfl
  omega

theorem violations_eq_nil_iff : (e.check r).violations = [] ↔
    (∀ field ∈ Field.required, r.contains field = true) ∧
    (∀ actual, r.integer? Field.type = some actual → actual = e.type.code) ∧
    (∀ actual, r.integer? Field.version = some actual → actual = e.version) ∧
    ∀ actual, r.integer? Field.tokenLength = some actual → actual = e.tokenLength := by
  rw [violations_check, Expectation.violationsOf]
  simp only [List.append_eq_nil_iff, List.map_eq_nil_iff, List.filter_eq_nil_iff, Option.toList_eq_nil_iff,
    Option.filter_eq_none_iff, Bool.not_eq_true', Bool.not_eq_false, decide_eq_true_eq, not_not, and_assoc]

/-! ## What does not count -/

/-- two records that a check cannot tell apart -/
structure Record.Alike (r s : Record) : Prop where
  present : ∀ name ∈ Field.required, s.contains name = r.contains name
  integers : ∀ name ∈ Field.compared, s.integer? name = r.integer? name

variable {r}

theorem findings_of_alike {s : Record} (h : r.Alike s) (verbose : Bool) :
    Check.findings { e with verbose } s = Check.findings e r := by
  have hpresence : Field.required.map (Check.presence s) = Field.required.map (Check.presence r) := by
    refine List.map_congr_left fun name hn => ?_
    rw [Check.presence, h.present name hn, Check.presence]
  unfold Check.findings Check.type Check.version Check.tokenLength
  rw [hpresence, h.integers Field.type (by decide), h.integers Field.version (by decide),
    h.integers Field.tokenLength (by decide)]

/-! ## Main result -/

/-- exactly what a report says of a record -/
structure Report.Exact (e : Expectation) (r : Record) (report : Report) : Prop where
  record : report.record = r
  violations : report.violations = e.violationsOf r
  /-- the checks that are made and do not fail -/
  confirmations : report.confirmations = e.confirmationsOf r
  /-- eight fields are looked for, and what integers there are are compared -/
  count : report.violations.length + report.confirmations.length =
    8 + Field.compared.countP fun name => (r.integer? name).isSome
  ok_iff : ∀ s, report.result = .ok s ↔ report.violations = [] ∧ s = r
  error_iff : ∀ violations, report.result = .error violations ↔ violations ≠ [] ∧ report.violations = violations

/-- **The exact report of a check.** For every record and whatever is expected, the report says just this; and it says
the same of every record that looks alike to the checks, whether or not confirmations are to be logged. -/
theorem check_reports_exactly (e : Expectation) (r : Record) :
    (e.check r).Exact e r ∧
    ∀ (s : Record) (verbose : Bool), r.Alike s →
      (({ e with verbose } : Expectation).check s).violations = (e.check r).violations ∧
      (({ e with verbose } : Expectation).check s).confirmations = (e.check r).confirmations := by
  refine ⟨⟨rfl, violations_check e r, confirmations_check e r, ?_, fun s => ?_, fun violations => ?_⟩,
    fun s verbose h => ?_⟩
  · rw [length_violations_add_length_confirmations]
    exact length_findings e r
  · by_cases hv : (e.check r).violations = []
    · rw [Report.result_of_nil hv, Except.ok.injEq, and_iff_right hv]
      exact eq_comm
    · rw [Report.result_of_ne_nil hv]
      simp [hv]
  · by_cases hv : (e.check r).violations = []
    · rw [Report.result_of_nil hv, hv]
      simp [eq_comm]
    · rw [Report.result_of_ne_nil hv]
      constructor
      · rintro ⟨⟩
        exact ⟨hv, rfl⟩
      · rintro ⟨-, rfl⟩
        rfl
  · have hf := findings_of_alike e h verbose
    exact ⟨congrArg (List.filterMap Finding.violation?) hf, congrArg (List.filterMap Finding.confirmation?) hf⟩

/-- a record that lacks five required fields, and has digits where the version should stand -/
def sparseRecord : Record :=
  .ofList [(Field.type, .integer 3), (Field.version, .hex "01"), (Field.tokenLength, .integer (-9223372036854775808)),
    (Field.payload, .hex "beef")]

/-- one that looks alike: in another order, with other digits, without the payload, and with an overwritten type -/
def sparseRecordReordered : Record :=
  .ofList [(Field.tokenLength, .integer (-9223372036854775808)), (Field.type, .integer 0),
    (Field.version, .ascii "two"), (Field.type, .integer 3)]

theorem check_reports_exactly_sparse :
    sparseRecord.Alike sparseRecordReordered ∧
    (({ type := .reset, verbose := true } : Expectation).check sparseRecordReordered).violations =
      [Field.code, Field.messageId, Field.token, Field.uriPath, Field.contentFormat].map .missing ++
        [.tokenLength (-9223372036854775808) 1] := by
  have ha : sparseRecord.Alike sparseRecordReordered := ⟨by decide, by decide⟩
  obtain ⟨hexact, hsame⟩ := check_reports_exactly { type := .reset } sparseRecord
  refine ⟨ha, ?_⟩
  rw [(hsame sparseRecordReordered true ha).1, hexact.violations]
  rfl

end DeviceDump
