/-
Verdicts: what a report says of its record in the end, and what that makes of a dump. A dump is accepted, invalid or
unreadable, each with its exact condition: `parseValidated_ok_iff`, `parseValidated_invalid_iff`,
`parseValidated_unreadable_iff`.
-/
import DeviceDump.Check.Report
import Mathlib.Tactic

namespace DeviceDump

/-- Asking for confirmations to be logged changes no finding. -/
theorem check_verbose (verbose : Bool) (r : Record) :
    ({ verbose } : Expectation).check r = ({} : Expectation).check r := rfl

theorem Report.result_of_nil {report : Report} (h : report.violations = []) : report.result = .ok report.record :=
  if_pos (List.isEmpty_iff.2 h)

theorem Report.result_of_ne_nil {report : Report} (h : report.violations ≠ []) :
    report.result = .error report.violations :=
  if_neg fun he => h (List.isEmpty_iff.1 he)

namespace Dump

variable {text : Text} {r : Record} {e : DumpError}

theorem parseValidated_of_error (h : parse text = .error e) : parseValidated text = .error (.unreadable e) := by
  unfold parseValidated
  rw [h]

theorem parseValidated_of_valid (h : parse text = .ok r) (hv : (({} : Expectation).check r).violations = []) :
    parseValidated text = .ok r := by
  unfold parseValidated
  simp only [h, Report.result_of_nil hv]
  rfl

theorem parseValidated_of_invalid (h : parse text = .ok r) (hv : (({} : Expectation).check r).violations ≠ []) :
    parseValidated text = .error (.invalid (({} : Expectation).check r).violations) := by
  unfold parseValidated
  simp only [h, Report.result_of_ne_nil hv]

theorem parseValidated_ok_iff :
    parseValidated text = .ok r ↔ parse text = .ok r ∧ (({} : Expectation).check r).violations = [] := by
  refine ⟨fun h => ?_, fun h => parseValidated_of_valid h.1 h.2⟩
  cases hp : parse text with
  | error e =>
    rw [parseValidated_of_error hp] at h
    cases h
  | ok read =>
    by_cases hv : (({} : Expectation).check read).violations = []
    · rw [parseValidated_of_valid hp hv] at h
      cases h
      exact ⟨rfl, hv⟩
    · rw [parseValidated_of_invalid hp hv] at h
      cases h

example : (parseValidated ("version:1\ntype:1\ntoken_len:1\ncode:2\nmessage_id:7\ntoken:9\nuri_path:6162\n" ++
    "content_format:0" : String).toList).isOk = true := by decide

theorem parseValidated_invalid_iff {violations : List Violation} :
    parseValidated text = .error (.invalid violations) ↔
      ∃ r, parse text = .ok r ∧ violations ≠ [] ∧ (({} : Expectation).check r).violations = violations := by
  constructor
  · intro h
    cases hp : parse text with
    | error e =>
      rw [parseValidated_of_error hp] at h
      cases h
    | ok read =>
      by_cases hv : (({} : Expectation).check read).violations = []
      · rw [parseValidated_of_valid hp hv] at h
        cases h
      · rw [parseValidated_of_invalid hp hv] at h
        cases h
        exact ⟨read, rfl, hv, rfl⟩
  · rintro ⟨r, hp, hne, rfl⟩
    exact parseValidated_of_invalid hp hne

theorem parseValidated_unreadable_iff : parseValidated text = .error (.unreadable e) ↔ parse text = .error e := by
  refine ⟨fun h => ?_, parseValidated_of_error⟩
  cases hp : parse text with
  | error e' =>
    rw [parseValidated_of_error hp] at h
    cases h
    rfl
  | ok read =>
    by_cases hv : (({} : Expectation).check read).violations = []
    · rw [parseValidated_of_valid hp hv] at h
      cases h
    · rw [parseValidated_of_invalid hp hv] at h
      cases h

end Dump

end DeviceDump
