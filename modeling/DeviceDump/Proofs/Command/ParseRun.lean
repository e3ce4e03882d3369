/-
What a run leaves behind that reads a dump from standard input: its exit status and both streams, for every input and
every call.

Input is accepted if it is UTF-8 and its record passes the default checks. It is invalid if it is read but a check
fails, and unreadable if it is not UTF-8 or its dump has a line at fault.
- `parseAction_accepted`, `parseAction_invalid`, `parseAction_unreadable`: the result for each kind of input. There is
  no fourth kind (`accepted_or_invalid_or_unreadable`).
- `lines_eq_nil`: up to the level of warnings nothing is logged.
- `run_parse_contract`: status and streams of every call, and what they do not depend on.
-/
import DeviceDump.Command.Run
import DeviceDump.Proofs.Check.Verdict
import DeviceDump.Proofs.Command.Call
import DeviceDump.Proofs.Wording

namespace DeviceDump.Command

/-- what reading gives when standard input holds `input` -/
def reading (input : ByteArray) (files : Text → Except ReadError ByteArray) : Source → Except ReadError ByteArray
  | .standardInput => .ok input
  | .file path => files path

/-! ## Kinds of input -/

/-- the input is a dump whose record is good -/
def Accepted (input : ByteArray) (r : Record) : Prop :=
  ∃ text, Text.ofUtf8? input = some text ∧ Dump.parseValidated text = .ok r

/-- the input is a dump, and this is wrong with its record -/
def Invalid (input : ByteArray) (r : Record) (violations : List Violation) : Prop :=
  ∃ text, Text.ofUtf8? input = some text ∧ Dump.parse text = .ok r ∧
    Dump.parseValidated text = .error (.invalid violations)

/-- the input is not text, or the text is no dump -/
def Unreadable (input : ByteArray) : Prop :=
  Text.ofUtf8? input = none ∨
    ∃ text e, Text.ofUtf8? input = some text ∧ Dump.parseValidated text = .error (.unreadable e)

theorem accepted_or_invalid_or_unreadable (input : ByteArray) :
    (∃ r, Accepted input r) ∨ (∃ r violations, Invalid input r violations) ∨ Unreadable input := by
  cases ht : Text.ofUtf8? input with
  | none => exact Or.inr (Or.inr (Or.inl ht))
  | some text =>
    cases hp : Dump.parse text with
    | error e => exact Or.inr (Or.inr (Or.inr ⟨text, e, ht, Dump.parseValidated_of_error hp⟩))
    | ok r =>
      by_cases hv : (({} : Expectation).check r).violations = []
      · exact Or.inl ⟨r, text, ht, Dump.parseValidated_of_valid hp hv⟩
      · exact Or.inr (Or.inl ⟨r, _, text, ht, hp, Dump.parseValidated_of_invalid hp hv⟩)

theorem ofUtf8?_toUTF8 (s : String) : Text.ofUtf8? s.toUTF8 = some s.toList := by
  have hs : s.toUTF8.IsValidUTF8 := s.isValidUTF8
  rw [Text.ofUtf8?, String.fromUTF8?, dif_pos hs]
  rfl

/-- the fields of a message with a given path, and nothing but what is required -/
def fieldsWithPath (path : Text) : List (Name × Value) :=
  [(Field.version, .integer 1), (Field.type, .integer 1), (Field.tokenLength, .integer 1), (Field.code, .integer 2),
    (Field.messageId, .integer 7), (Field.token, .integer 9), (Field.uriPath, .ascii path),
    (Field.contentFormat, .integer 0)]

/-- a dump of such a message; the path is `a/b` -/
def plainDump : String :=
  "version:1\ntype:1\ntoken_len:1\ncode:2\nmessage_id:7\ntoken:9\nuri_path:612f62\ncontent_format:0\n"

theorem accepted_plainDump : Accepted plainDump.toUTF8 (Record.ofList (fieldsWithPath "a/b".toList)) :=
  ⟨_, ofUtf8?_toUTF8 plainDump, rfl⟩

/-! ## Results -/

/-- what is said of a record's checks that passed -/
def approvals (r : Record) : List Text :=
  (({} : Expectation).check r).confirmations.map fun c => "Check OK: " ++ c.message

/-- the same as it is printed, if it is asked for -/
def confirmed (verbose : Bool) (r : Record) : Text := if verbose then Text.lineSeq (approvals r) else []

/-- what is said when checks failed: every violation, and how many they are -/
def objections (violations : List Violation) : List Text :=
  violations.map Violation.message ++
    ["validation failed: " ++ (Text.Decimal.ofNat violations.length ++ " violation(s)")]

variable {input : ByteArray} {text : Text} {r : Record} {violations : List Violation} (verbose : Bool)
  (format : DeviceDump.Format)

theorem scan_of_parse_ok (h : Dump.parse text = .ok r) : ∃ read, Dump.scan text = (read, none) ∧ read.record = r := by
  unfold Dump.parse at h
  split at h
  · cases h
  · rename_i read hs
    exact ⟨read, hs, Except.ok.inj h⟩

theorem scan_of_parse_error {e : DumpError} (h : Dump.parse text = .error e) :
    ∃ read, Dump.scan text = (read, some e) := by
  unfold Dump.parse at h
  split at h
  · rename_i read e' hs
    cases h
    exact ⟨read, hs⟩
  · cases h

/-- What is read is checked. -/
theorem parseAction_of_parse (ht : Text.ofUtf8? input = some text) (hp : Dump.parse text = .ok r) :
    ∃ events, parseAction .standardInput (.ok input) verbose format = checkAction events r verbose format := by
  obtain ⟨read, hs, rfl⟩ := scan_of_parse_ok hp
  refine ⟨Source.events .standardInput ++ Log.ofScan (read, none), ?_⟩
  simp only [parseAction, readText, ht, hs]

theorem parseAction_accepted (h : Accepted input r) :
    ∃ events, parseAction .standardInput (.ok input) verbose format =
      { output := confirmed verbose r ++ r.render format, events } := by
  obtain ⟨text, ht, hv⟩ := h
  obtain ⟨hp, hnil⟩ := Dump.parseValidated_ok_iff.1 hv
  obtain ⟨events, he⟩ := parseAction_of_parse verbose format ht hp
  refine ⟨events ++ Log.ofReport verbose (({} : Expectation).check r), ?_⟩
  rw [he]
  simp only [checkAction, check_verbose, Report.result_of_nil hnil]
  rfl

theorem parseAction_invalid (h : Invalid input r violations) :
    ∃ events, parseAction .standardInput (.ok input) verbose format =
      { status := .dataInvalid, output := confirmed verbose r, events, complaints := objections violations } := by
  obtain ⟨text, ht, hp, hv⟩ := h
  obtain ⟨r', hp', hne, rfl⟩ := Dump.parseValidated_invalid_iff.1 hv
  cases hp.symm.trans hp'
  obtain ⟨events, he⟩ := parseAction_of_parse verbose format ht hp
  refine ⟨events ++ Log.ofReport verbose (({} : Expectation).check r), ?_⟩
  rw [he]
  simp only [checkAction, check_verbose, Report.result_of_ne_nil hne]
  rfl

theorem parseAction_unreadable (h : Unreadable input) :
    ∃ message, Text.OneLine message ∧ ∀ verbose format, ∃ events,
      parseAction .standardInput (.ok input) verbose format =
        { status := .dataInvalid, events, complaints := [message] } := by
  rcases h with ht | ⟨text, e, ht, hv⟩
  · refine ⟨(Failure.ofRead Source.standardInput.context .notUtf8).message, by decide, fun verbose format => ⟨[], ?_⟩⟩
    simp only [parseAction, readText, ht]
    rfl
  · have hp := Dump.parseValidated_unreadable_iff.1 hv
    obtain ⟨read, hs⟩ := scan_of_parse_error hp
    refine ⟨(Failure.ofDump "parse failed" e).message, ?_,
      fun verbose format => ⟨Source.events .standardInput ++ Log.ofScan (read, some e), ?_⟩⟩
    · unfold Failure.ofDump Failure.because
      simp only [Text.oneLine_append]
      exact ⟨⟨by decide, by decide⟩, oneLine_message_of_parse hp⟩
    · simp only [parseAction, readText, ht, hs]
      rfl

open scoped Classical in
/-- Whether a run succeeds depends on the input alone. -/
theorem status_eq : (parseAction .standardInput (.ok input) verbose format).status =
    if ∃ r, Accepted input r then .success else .dataInvalid := by
  split_ifs with h
  · obtain ⟨r, hr⟩ := h
    obtain ⟨events, he⟩ := parseAction_accepted verbose format hr
    rw [he]
  · rcases accepted_or_invalid_or_unreadable input with ha | ⟨r, violations, hi⟩ | hu
    · exact absurd ha h
    · obtain ⟨events, he⟩ := parseAction_invalid verbose format hi
      rw [he]
    · obtain ⟨message, -, hm⟩ := parseAction_unreadable hu
      obtain ⟨events, he⟩ := hm verbose format
      rw [he]

/-! ## Outcomes -/

/-- nothing less serious than a warning is to be logged, as is usual -/
def ParseCall.Quiet (call : ParseCall) : Prop := (call.logLevel?.getD .warn).rank ≤ Log.Level.warn.rank

/-- Every event is less serious than a warning. -/
theorem warn_lt_rank (e : Log.Event) : Log.Level.warn.rank < e.level.rank := by
  cases e <;> simp [Log.Event.level, Log.Level.rank]

theorem lines_eq_nil {level : Log.Level} (h : level.rank ≤ Log.Level.warn.rank) (logFormat : Log.Format)
    (events : List Log.Event) : Log.lines logFormat level events = [] := by
  have hnone : events.filter (fun e => e.level.rank ≤ level.rank) = [] := by
    rw [List.filter_eq_nil_iff]
    intro e _
    have := warn_lt_rank e
    simp only [decide_eq_true_eq]
    omega
  rw [Log.lines, hnone, List.map_nil]

theorem run_call (call : ParseCall) (input : ByteArray) (files : Text → Except ReadError ByteArray) :
    run {} call.arguments (reading input files) =
      (parseAction .standardInput (.ok input) call.verbose (call.format?.getD .pretty)).outcome
        (call.logFormat?.getD .text) (call.logLevel?.getD .warn) := by
  unfold run
  rw [call.of?_arguments]
  rfl

theorem stderr_of_quiet {call : ParseCall} (h : call.Quiet) (result : Result) (logFormat : Log.Format) :
    (result.outcome logFormat (call.logLevel?.getD .warn)).stderr =
      Text.lineSeq (result.complaints.map ("error: " ++ ·)) := by
  unfold Result.outcome
  simp only [lines_eq_nil h]
  rfl

theorem oneLine_approvals {t : Text} (h : t ∈ approvals r) : Text.OneLine t := by
  obtain ⟨c, hc, rfl⟩ := List.mem_map.1 h
  exact Text.oneLine_append.2 ⟨by decide, oneLine_message_of_confirmed hc⟩

theorem oneLine_objections (h : Invalid input r violations) {t : Text} (ht : t ∈ objections violations) :
    Text.OneLine t := by
  obtain ⟨text, -, -, hv⟩ := h
  obtain ⟨r', -, -, rfl⟩ := Dump.parseValidated_invalid_iff.1 hv
  rcases List.mem_append.1 ht with ht | ht
  · obtain ⟨v, hm, rfl⟩ := List.mem_map.1 ht
    exact oneLine_message_of_violated hm
  · rw [List.mem_singleton.1 ht]
    exact Text.oneLine_append.2 ⟨by decide, Text.oneLine_append.2 ⟨oneLine_ofNat _, by decide⟩⟩

/-- what a call leaves behind for an input -/
structure ParseContract (call : ParseCall) (input : ByteArray) (outcome : Outcome) : Prop where
  zero_iff : outcome.status.code = 0 ↔ ∃ r, Accepted input r
  sixty_of_ne_zero : outcome.status.code ≠ 0 → outcome.status.code = 60
  /-- an accepted record is printed after the confirmations -/
  stdout_accepted : ∀ r, Accepted input r →
    outcome.stdout = confirmed call.verbose r ++ r.render (call.format?.getD .pretty)
  /-- of an invalid one only the confirmations are -/
  stdout_invalid : ∀ r violations, Invalid input r violations → outcome.stdout = confirmed call.verbose r
  stdout_unreadable : Unreadable input → outcome.stdout = []
  stderr_accepted : call.Quiet → ∀ r, Accepted input r → outcome.stderr = []
  stderr_invalid : call.Quiet → ∀ r violations, Invalid input r violations →
    outcome.stderr = Text.lineSeq ((objections violations).map ("error: " ++ ·))
  stderr_unreadable : call.Quiet → Unreadable input →
    ∃ message, Text.OneLine message ∧ outcome.stderr = Text.line ("error: " ++ message)
  /-- whatever the input, nothing of what is said takes more than a line -/
  one_line : ∀ r, (∀ t ∈ approvals r, Text.OneLine t) ∧
    ∀ violations, Invalid input r violations → ∀ t ∈ objections violations, Text.OneLine t

theorem parseContract (call : ParseCall) (input : ByteArray) :
    ParseContract call input
      ((parseAction .standardInput (.ok input) call.verbose (call.format?.getD .pretty)).outcome
        (call.logFormat?.getD .text) (call.logLevel?.getD .warn)) where
  zero_iff := by
    show Status.code (Result.status _) = 0 ↔ _
    rw [status_eq]
    split_ifs with h
    · exact iff_of_true rfl h
    · exact iff_of_false (by decide) h
  sixty_of_ne_zero := by
    show Status.code (Result.status _) ≠ 0 → Status.code (Result.status _) = 60
    rw [status_eq]
    split_ifs
    · exact fun hne => absurd rfl hne
    · exact fun _ => rfl
  stdout_accepted := fun r hr => by
    obtain ⟨events, he⟩ := parseAction_accepted call.verbose (call.format?.getD .pretty) hr
    rw [he]
    rfl
  stdout_invalid := fun r violations hi => by
    obtain ⟨events, he⟩ := parseAction_invalid call.verbose (call.format?.getD .pretty) hi
    rw [he]
    rfl
  stdout_unreadable := fun hu => by
    obtain ⟨message, -, hm⟩ := parseAction_unreadable hu
    obtain ⟨events, he⟩ := hm call.verbose (call.format?.getD .pretty)
    rw [he]
    rfl
  stderr_accepted := fun hq r hr => by
    obtain ⟨events, he⟩ := parseAction_accepted call.verbose (call.format?.getD .pretty) hr
    rw [stderr_of_quiet hq, he]
    rfl
  stderr_invalid := fun hq r violations hi => by
    obtain ⟨events, he⟩ := parseAction_invalid call.verbose (call.format?.getD .pretty) hi
    rw [stderr_of_quiet hq, he]
  stderr_unreadable := fun hq hu => by
    obtain ⟨message, hn, hm⟩ := parseAction_unreadable hu
    obtain ⟨events, he⟩ := hm call.verbose (call.format?.getD .pretty)
    refine ⟨message, hn, ?_⟩
    rw [stderr_of_quiet hq, he]
    exact List.append_nil _
  one_line := fun r => ⟨fun _ ht => oneLine_approvals ht, fun _ hi _ ht => oneLine_objections hi ht⟩

end DeviceDump.Command
