/-
What a run shows that prints an accepted record in the pretty form: a name, a colon and a value for each field, each
ended by a newline.

This is meant to be a line per field, and it is one as long as no value holds a newline. Names, integers and
hexadecimal values cannot, since a name and a value stand on one line of a dump. A 7-bit text can: its digits stand on
one line, but they may stand for a newline, and the text is shown as it is.
- `stdout_pretty`: what is printed.
- `oneLine_prettyLines_iff`: the lines written for a record's fields take one line each just if its texts do.
- `run_pretty_lines`: how many lines are shown, and when they are those of the fields.
- `run_pretty_forged_line`: a path with a newline in it, whose second half is shown as a line of another field.
-/
import DeviceDump.Proofs.Command.ParseRun
import DeviceDump.Proofs.Dump.RoundTrip

namespace DeviceDump

open Text (OneLine shownLines)

/-! ## Lines of fields -/

/-- Of the values that a dump can hold, only a 7-bit text can take more than a line. -/
theorem oneLine_display_iff {name : Name} {value : Value} (h : StorableField name value) :
    OneLine value.display ↔ ∀ t, value = .ascii t → OneLine t := by
  cases value with
  | hex digits =>
    refine ⟨fun _ t ht => ?_, fun _ => (h.hex digits rfl).1⟩
    cases ht
  | ascii t =>
    constructor
    · intro hd u hu
      cases hu
      exact hd
    · intro ht
      exact ht t rfl
  | integer n =>
    refine ⟨fun _ t ht => ?_, fun _ => oneLine_ofWord n⟩
    cases ht

theorem oneLine_prettyLine_iff {name : Name} {value : Value} (h : StorableField name value) :
    OneLine (name ++ (": " : String).toList ++ value.display) ↔ ∀ t, value = .ascii t → OneLine t := by
  have hname : OneLine (name ++ (": " : String).toList) := Text.oneLine_append.2 ⟨h.noNewline, by decide⟩
  rw [Text.oneLine_append, oneLine_display_iff h]
  exact and_iff_right hname

theorem oneLine_prettyLines_iff {r : Record} (h : r.Storable) :
    (∀ line ∈ r.prettyLines, OneLine line) ↔
      ∀ field ∈ r.toList, ∀ t, field.2 = .ascii t → OneLine t := by
  rw [Record.prettyLines, List.forall_mem_map]
  exact forall₂_congr fun field hf => oneLine_prettyLine_iff (h field hf)

/-- In the line of a storable field only the value can hold newlines. -/
theorem count_prettyLine {name : Name} {value : Value} (h : StorableField name value) :
    (name ++ (": " : String).toList ++ value.display).count '\n' = value.display.count '\n' := by
  rw [List.count_append, List.count_append, List.count_eq_zero.2 h.noNewline]
  simp

namespace Command

/-! ## Runs -/

variable {call : ParseCall} {input : ByteArray} {r : Record}

theorem stdout_pretty (hf : call.format?.getD .pretty = .pretty) (hv : call.verbose = false) (h : Accepted input r)
    (files : Text → Except ReadError ByteArray) :
    (run {} call.arguments (reading input files)).stdout = Text.lineSeq r.prettyLines := by
  rw [run_call, (parseContract call input).stdout_accepted r h, hf, hv]
  rfl

theorem storable_of_accepted (h : Accepted input r) : r.Storable := by
  obtain ⟨text, -, hv⟩ := h
  exact Dump.storable_of_parse (Dump.parseValidated_ok_iff.1 hv).1

/-- **A line per field, as long as no text holds a newline.** A run that prints an accepted record in the pretty form,
without confirmations, writes name and value of each field in order, and a newline after each. It shows as many lines
as there are fields and newlines in values. The lines shown are those of the fields just if no 7-bit text holds a
newline. -/
theorem run_pretty_lines (call : ParseCall) (hf : call.format?.getD .pretty = .pretty) (hv : call.verbose = false)
    (input : ByteArray) (r : Record) (h : Accepted input r) (files : Text → Except ReadError ByteArray) :
    (run {} call.arguments (reading input files)).stdout =
      Text.lineSeq (r.toList.map fun field => field.1 ++ ": ".toList ++ field.2.display) ∧
    (shownLines (run {} call.arguments (reading input files)).stdout).length =
      r.size + (r.toList.map fun field => field.2.display.count '\n').sum ∧
    (shownLines (run {} call.arguments (reading input files)).stdout =
        r.toList.map (fun field => field.1 ++ ": ".toList ++ field.2.display) ↔
      ∀ field ∈ r.toList, ∀ t, field.2 = .ascii t → '\n' ∉ t) := by
  have hs := storable_of_accepted h
  rw [stdout_pretty hf hv h files]
  refine ⟨rfl, ?_, ?_⟩
  · rw [Text.length_shownLines_lineSeq, Record.prettyLines, List.length_map, List.map_map]
    refine congrArg₂ (· + ·) Array.length_toList (congrArg List.sum (List.map_congr_left fun field hm => ?_))
    exact count_prettyLine (hs field hm)
  · exact Text.shownLines_lineSeq_eq_self_iff.trans (oneLine_prettyLines_iff hs)

/-! ## A line per field, and one more -/

/-- a dump of a message whose path has a newline in it, and then what looks like another version -/
def forgingDump : String :=
  "version:1\ntype:1\ntoken_len:1\ncode:2\nmessage_id:7\ntoken:9\nuri_path:610a76657273696f6e3a2032\ncontent_format:0\n"

/-- the arguments `parse - --format pretty` -/
def prettyCall : ParseCall :=
  ⟨[], [.input, .choice ⟨.format .pretty, false⟩], by decide, by decide, by decide⟩

theorem accepted_forgingDump : Accepted forgingDump.toUTF8 (Record.ofList (fieldsWithPath "a\nversion: 2".toList)) :=
  ⟨_, ofUtf8?_toUTF8 forgingDump, rfl⟩

theorem run_pretty_lines_plain :
    prettyCall.format?.getD .pretty = .pretty ∧ prettyCall.verbose = false ∧
    Accepted plainDump.toUTF8 (Record.ofList (fieldsWithPath "a/b".toList)) ∧
    shownLines (run {} prettyCall.arguments (reading plainDump.toUTF8 fun _ => .error .notFound)).stdout =
      ["version: 1", "type: 1", "token_len: 1", "code: 2", "message_id: 7", "token: 9", "uri_path: a/b",
        "content_format: 0"].map String.toList := by
  obtain ⟨-, -, hlines⟩ := run_pretty_lines prettyCall (by decide) (by decide) plainDump.toUTF8 _ accepted_plainDump
    fun _ => .error .notFound
  have hone : ∀ field ∈ (Record.ofList (fieldsWithPath "a/b".toList)).toList, ∀ t, field.2 = .ascii t → '\n' ∉ t := by
    rw [Record.toList_ofList_of_nodup (by decide)]
    simp [fieldsWithPath]
  refine ⟨by decide, by decide, accepted_plainDump, ?_⟩
  rw [hlines.2 hone]
  rfl

/-- **A value that forges a line.** The record has eight fields, and its version is 1. Nine lines are shown, and one of
them says that the version is 2. -/
theorem run_pretty_forged_line :
    Accepted forgingDump.toUTF8 (Record.ofList (fieldsWithPath "a\nversion: 2".toList)) ∧
    (Record.ofList (fieldsWithPath "a\nversion: 2".toList)).size = 8 ∧
    shownLines (run {} prettyCall.arguments (reading forgingDump.toUTF8 fun _ => .error .notFound)).stdout =
      ["version: 1", "type: 1", "token_len: 1", "code: 2", "message_id: 7", "token: 9", "uri_path: a", "version: 2",
        "content_format: 0"].map String.toList := by
  refine ⟨accepted_forgingDump, rfl, ?_⟩
  rw [stdout_pretty (by decide) (by decide) accepted_forgingDump]
  decide

end Command

end DeviceDump
