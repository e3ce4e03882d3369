/-
Messages take one line. Names and contents of a dump's lines stand in the messages as they are, so this rests on what
lines cannot hold: a message about a text without a newline (`Text.OneLine`) has none either.
- `oneLine_message_of_parse`: the message of whatever makes reading fail;
- `oneLine_message_of_violated`, `oneLine_message_of_confirmed`: the messages of whatever a check finds.
-/
import DeviceDump.Proofs.Dump.Meaning
import DeviceDump.Proofs.Hex.Numeral
import DeviceDump.Proofs.Text.Lines
import DeviceDump.Proofs.Value.Dumped
import DeviceDump.Check.Report

namespace DeviceDump

open Text (OneLine oneLine_append oneLine_of_forall oneLine_of_mem_lines)

/-! ## Parts of messages -/

theorem oneLine_ofInt (n : Int) : OneLine (Text.Decimal.ofInt n) :=
  oneLine_of_forall fun _ hc => isBlank_of_mem_ofInt hc

theorem oneLine_ofNat (n : Nat) : OneLine (Text.Decimal.ofNat n) := oneLine_ofInt n

theorem oneLine_ofWord (n : Int64) : OneLine (Text.Decimal.ofWord n) := oneLine_ofInt n.toInt

theorem oneLine_singleton {c : Char} (h : c ≠ '\n') : OneLine [c] := fun hn => h (List.mem_singleton.1 hn).symm

theorem oneLine_toDigits (n : Nat) : OneLine (Nat.toDigits 16 n) :=
  oneLine_of_forall fun c hc => by
    obtain ⟨d, hd, rfl⟩ := Text.exists_digitChar_of_mem_toDigits (by decide) hc
    exact Text.isBlank_digitChar hd

/-- Quoting writes a newline in its short form. -/
theorem oneLine_char (c : Char) : OneLine (Text.Quoted.char '\'' c) := by
  unfold Text.Quoted.char
  split
  · decide
  · decide
  · decide
  · decide
  · decide
  · rename_i hn _ _
    have hc : OneLine [c] := oneLine_singleton fun h => hn h
    split_ifs
    · exact oneLine_append.2 ⟨(by decide : OneLine ['\\']), hc⟩
    · exact hc
    · have hd : OneLine (Nat.toDigits 16 c.toNat ++ ['\x7d']) := oneLine_append.2 ⟨oneLine_toDigits _, by decide⟩
      exact oneLine_append.2 ⟨(by decide : OneLine ['\\', 'u', '\x7b']), hd⟩

theorem oneLine_quoted (c : Char) : OneLine (Text.Quoted.ofChar c) :=
  oneLine_append.2 ⟨(by decide : OneLine ['\'']), oneLine_append.2 ⟨oneLine_char c, by decide⟩⟩

/-- A message about two texts takes one line if they do. -/
theorem oneLine_about {first second : Text} (h₁ : OneLine first) (h₂ : OneLine second) {a b c : Text}
    (h : OneLine a ∧ OneLine b ∧ OneLine c) : OneLine (a ++ first ++ b ++ second ++ c) := by
  simp only [oneLine_append]
  exact ⟨⟨⟨⟨h.1, h₁⟩, h.2.1⟩, h₂⟩, h.2.2⟩

/-! ## Reading -/

theorem oneLine_pairError (e : Hex.PairError) : OneLine e.message := by
  cases e with
  | oddLength => decide
  | notDigit byte position =>
    unfold Hex.PairError.message
    simp only [oneLine_append]
    exact ⟨⟨⟨by decide, oneLine_quoted _⟩, by decide⟩, oneLine_ofNat position⟩

theorem oneLine_message_of_decode {name : Name} {raw : Text} {e : DumpError} (hn : OneLine name) (hr : OneLine raw)
    (h : Value.decode name raw = .error e) : OneLine e.message := by
  unfold Value.decode at h
  split at h
  · cases h
  · unfold Value.decodeAscii at h
    split at h
    · cases h
      unfold DumpError.message
      simp only [oneLine_append]
      exact ⟨⟨⟨by decide, hn⟩, by decide⟩, oneLine_pairError _⟩
    · split_ifs at h
      cases h
      exact oneLine_about hn hr (by decide)
  · split at h
    · cases h
    · cases h
      exact oneLine_about hn hr (by decide)

theorem oneLine_message_of_says {line : Text} {number : Nat} {e : DumpError} (hl : OneLine line)
    (h : Dump.Says line number (.error e)) : OneLine e.message := by
  rcases Dump.says_error_iff.1 h with ⟨-, rfl⟩ | ⟨before, after, rfl, -, hd⟩
  · exact oneLine_about (oneLine_ofNat number) hl (by decide)
  · have hn : OneLine before.trim := fun hm => hl (by simp [Text.mem_of_mem_trim hm])
    have hr : OneLine after.trim := fun hm => hl (by simp [Text.mem_of_mem_trim hm])
    exact oneLine_message_of_decode hn hr hd

/-- **What makes reading fail is told in one line**, whatever stands in the dump. -/
theorem oneLine_message_of_parse {dump : Text} {e : DumpError} (h : Dump.parse dump = .error e) :
    OneLine e.message := by
  obtain ⟨before, line, number, after, hl, -, he⟩ := Dump.parse_error_iff.1 h
  have hm : (line, number) ∈ Dump.spokenLines dump := by rw [hl]; simp
  have hnum : (line, number) ∈ dump.numberedLines := (List.mem_filter.1 hm).1
  exact oneLine_message_of_says (oneLine_of_mem_lines (Text.mem_lines_of_mem_numberedLines hnum)) he

/-! ## Checking -/

theorem oneLine_required {field : Name} (h : field ∈ Field.required) : OneLine field :=
  (by decide : ∀ field ∈ Field.required, OneLine field) field h

theorem oneLine_label (t : MessageType) : OneLine t.label := by cases t <;> decide

theorem oneLine_labelOf (code : Int64) : OneLine (MessageType.labelOf code) := by
  unfold MessageType.labelOf
  split
  · exact oneLine_label _
  · decide

theorem oneLine_display (t : MessageType) : OneLine t.display := by
  unfold MessageType.display
  simp only [oneLine_append]
  exact ⟨⟨⟨oneLine_ofWord t.code, by decide⟩, oneLine_label t⟩, by decide⟩

theorem oneLine_confirmation {c : Confirmation} (h : ∀ field, c = .present field → OneLine field) :
    OneLine c.message := by
  cases c with
  | present field =>
    unfold Confirmation.message
    simp only [oneLine_append]
    exact ⟨⟨by decide, h field rfl⟩, by decide⟩
  | type expected =>
    unfold Confirmation.message
    exact oneLine_append.2 ⟨by decide, oneLine_display expected⟩
  | version expected =>
    unfold Confirmation.message
    exact oneLine_append.2 ⟨by decide, oneLine_ofWord expected⟩
  | tokenLength expected =>
    unfold Confirmation.message
    exact oneLine_append.2 ⟨by decide, oneLine_ofWord expected⟩

theorem oneLine_violation {v : Violation} (h : ∀ field, v = .missing field → OneLine field) :
    OneLine v.message := by
  cases v with
  | missing field =>
    unfold Violation.message
    simp only [oneLine_append]
    exact ⟨⟨by decide, h field rfl⟩, by decide⟩
  | type actual expected =>
    unfold Violation.message
    simp only [oneLine_append]
    exact ⟨⟨⟨⟨⟨by decide, oneLine_ofWord actual⟩, by decide⟩, oneLine_labelOf actual⟩, by decide⟩,
      oneLine_display expected⟩
  | version actual expected =>
    exact oneLine_about (oneLine_ofWord expected) (oneLine_ofWord actual) (by decide)
  | tokenLength actual expected =>
    exact oneLine_about (oneLine_ofWord expected) (oneLine_ofWord actual) (by decide)

/-- The only names that a finding repeats are those of required fields. -/
theorem mem_required_of_finding {e : Expectation} {r : Record} {f : Finding} {field : Name}
    (h : f ∈ Check.findings e r) (hf : f = .confirmed (.present field) ∨ f = .violated (.missing field)) :
    field ∈ Field.required := by
  simp only [Check.findings, List.mem_append, List.mem_map, Option.mem_toList] at h
  rcases h with ((⟨required, hm, rfl⟩ | h) | h) | h
  · unfold Check.presence at hf
    split_ifs at hf
    · rcases hf with hf | hf
      · cases hf
        exact hm
      · cases hf
    · rcases hf with hf | hf
      · cases hf
      · cases hf
        exact hm
  -- what the comparisons find is about no name
  all_goals
    obtain ⟨actual, -, rfl⟩ := Option.map_eq_some_iff.1 h
    split_ifs at hf
    · rcases hf with hf | hf <;> cases hf
    · rcases hf with hf | hf <;> cases hf

/-- **What a check confirms is told in one line.** -/
theorem oneLine_message_of_confirmed {e : Expectation} {r : Record} {c : Confirmation}
    (h : c ∈ (e.check r).confirmations) : OneLine c.message := by
  obtain ⟨f, hm, hc⟩ := List.mem_filterMap.1 h
  refine oneLine_confirmation fun field hf => ?_
  cases f with
  | confirmed c' =>
    cases hc
    exact oneLine_required (mem_required_of_finding hm (Or.inl (congrArg Finding.confirmed hf)))
  | violated v => cases hc

/-- **What a check finds wrong is told in one line.** -/
theorem oneLine_message_of_violated {e : Expectation} {r : Record} {v : Violation}
    (h : v ∈ (e.check r).violations) : OneLine v.message := by
  obtain ⟨f, hm, hv⟩ := List.mem_filterMap.1 h
  refine oneLine_violation fun field hf => ?_
  cases f with
  | confirmed c => cases hv
  | violated v' =>
    cases hv
    exact oneLine_required (mem_required_of_finding hm (Or.inr (congrArg Finding.violated hf)))

end DeviceDump
