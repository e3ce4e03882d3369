/-
Dumps one after the other. The lines of the second are the same lines under later numbers, and each says what it says
by itself, but for the number that a malformed line is reported with (`says_renumber`). So what both dumps say together
is what the first says, followed by what the second says.
- `parse_append_of_error`: a fault of the first dump is the fault of both.
- `parse_append_of_ok_of_error`: behind a good dump, a fault is reported under its later number.
- `parse_append_of_ok_of_ok`: two good dumps are a good dump, and its record is their merge.
- `parse_append`: the three together.
-/
import DeviceDump.Proofs.Dump.Meaning
import DeviceDump.Proofs.Record.Merge
import DeviceDump.Proofs.Text.Lines

namespace DeviceDump

namespace DumpError

/-- the same fault, a malformed line under another number -/
def renumber (f : Nat → Nat) : DumpError → DumpError
  | .malformedLine number content => .malformedLine (f number) content
  | e => e

theorem renumber_id (e : DumpError) : e.renumber id = e := by
  cases e <;> rfl

theorem renumber_renumber (e : DumpError) (f g : Nat → Nat) : (e.renumber f).renumber g = e.renumber (g ∘ f) := by
  cases e <;> rfl

/-- Only the number of a malformed line counts, so functions that agree there renumber alike. -/
theorem renumber_congr {e : DumpError} {f g : Nat → Nat}
    (h : ∀ number content, e = .malformedLine number content → f number = g number) : e.renumber f = e.renumber g := by
  cases e with
  | malformedLine number content => rw [renumber, renumber, h number content rfl]
  | invalidHex field reason => rfl
  | notAscii field raw => rfl
  | invalidInteger field raw => rfl

theorem renumber_eq_malformedLine_iff {e : DumpError} {f : Nat → Nat} {number : Nat} {content : Text} :
    e.renumber f = .malformedLine number content ↔ ∃ n, e = .malformedLine n content ∧ f n = number := by
  cases e <;> simp [renumber, and_comm]

end DumpError

namespace Dump

/-! ## Lines under other numbers -/

/-- What is wrong with a value does not depend on where its line stands. -/
theorem renumber_of_decode {field : Name} {raw : Text} {e : DumpError} (h : Value.decode field raw = .error e)
    (f : Nat → Nat) : e.renumber f = e := by
  unfold Value.decode at h
  split at h
  · cases h
  · unfold Value.decodeAscii at h
    split at h
    · cases h
      rfl
    · split_ifs at h
      cases h
      rfl
  · split at h
    · cases h
    · cases h
      rfl

/-- A line under another number says the same, a malformed one with its other number. -/
theorem says_renumber {line : Text} {number : Nat} {outcome : Except DumpError (Name × Value)}
    (h : Says line number outcome) (f : Nat → Nat) :
    Says line (f number) (outcome.mapError (·.renumber f)) := by
  cases h with
  | malformed hc => exact .malformed hc
  | field before after hl hb =>
    have hs : Says line (f number) _ := .field before after hl hb
    cases hd : Value.decode before.trim after.trim with
    | ok value => rwa [hd] at hs
    | error e =>
      rw [hd] at hs
      have he : e.renumber f = e := renumber_of_decode hd f
      simpa [Except.map, Except.mapError, he] using hs

variable {lines others : List (Text × Nat)} {entries more : List (Name × Value)} {e : DumpError}

/-- the same lines under other numbers -/
def renumberLines (f : Nat → Nat) (lines : List (Text × Nat)) : List (Text × Nat) := lines.map fun l => (l.1, f l.2)

theorem AllSay.renumber (h : AllSay lines entries) (f : Nat → Nat) : AllSay (renumberLines f lines) entries := by
  apply List.forall₂_map_left_iff.2
  exact List.Forall₂.imp (fun l entry hs => says_renumber hs f) h

theorem FirstFailure.renumber (h : FirstFailure lines e) (f : Nat → Nat) :
    FirstFailure (renumberLines f lines) (e.renumber f) := by
  obtain ⟨before, line, number, after, rfl, hb, he⟩ := h
  refine ⟨renumberLines f before, line, f number, renumberLines f after, by simp [renumberLines], ?_,
    says_renumber he f⟩
  intro l hl
  obtain ⟨l', hl', rfl⟩ := List.mem_map.1 hl
  obtain ⟨entry, hs⟩ := hb l' hl'
  exact ⟨entry, says_renumber hs f⟩

/-! ## Lines behind others -/

theorem AllSay.append (h : AllSay lines entries) (ho : AllSay others more) :
    AllSay (lines ++ others) (entries ++ more) := List.rel_append h ho

theorem FirstFailure.append (h : FirstFailure lines e) (others : List (Text × Nat)) :
    FirstFailure (lines ++ others) e := by
  obtain ⟨before, line, number, after, rfl, hb, he⟩ := h
  exact ⟨before, line, number, after ++ others, by simp, hb, he⟩

theorem FirstFailure.behind (ho : FirstFailure others e) (h : AllSay lines entries) :
    FirstFailure (lines ++ others) e := by
  obtain ⟨before, line, number, after, rfl, hb, he⟩ := ho
  refine ⟨lines ++ before, line, number, after, by simp, ?_, he⟩
  intro l hl
  rcases List.mem_append.1 hl with hl | hl
  · exact h.exists_of_mem hl
  · exact hb l hl

/-! ## Two dumps -/

variable {a b : Text} {r s : Record}

theorem spokenLines_append (h : a.Ended) (b : Text) :
    spokenLines (a ++ b) = spokenLines a ++ renumberLines (· + a.lines.length) (spokenLines b) := by
  rw [spokenLines, Text.numberedLines_append h, List.filter_append, List.filter_map]
  rfl

theorem parse_append_of_error (h : a.Ended) (ha : parse a = .error e) (b : Text) : parse (a ++ b) = .error e := by
  rw [parse_error_iff] at ha ⊢
  rw [spokenLines_append h]
  exact ha.append _

theorem parse_append_of_ok_of_error (h : a.Ended) (ha : parse a = .ok r) (hb : parse b = .error e) :
    parse (a ++ b) = .error (e.renumber (· + a.lines.length)) := by
  obtain ⟨entries, hs, -⟩ := parse_ok_iff.1 ha
  rw [parse_error_iff] at hb ⊢
  rw [spokenLines_append h]
  exact (hb.renumber _).behind hs

theorem parse_append_of_ok_of_ok (h : a.Ended) (ha : parse a = .ok r) (hb : parse b = .ok s) :
    parse (a ++ b) = .ok (r.merge s) := by
  obtain ⟨entries, hs, rfl⟩ := parse_ok_iff.1 ha
  obtain ⟨more, ht, rfl⟩ := parse_ok_iff.1 hb
  rw [← Record.ofList_append]
  apply parse_of_allSay
  rw [spokenLines_append h]
  exact hs.append (ht.renumber _)

/-! ## Main result -/

/-- **Reading turns concatenation into merge.** If the first dump stops where a line stops, then both together fail
with its fault, if it has one; else with the fault of the second, under a number later by the lines of the first, empty
ones counted; and else they are the record of the first with all fields of the second put into it. -/
theorem parse_append (a b : Text) (h : a.Ended) : parse (a ++ b) =
    match parse a, parse b with
    | .error e, _ => .error e
    | .ok _, .error e => .error (e.renumber (· + a.lines.length))
    | .ok r, .ok s => .ok (r.merge s) := by
  cases ha : parse a with
  | error e => exact parse_append_of_error h ha b
  | ok r =>
    cases hb : parse b with
    | error e => exact parse_append_of_ok_of_error h ha hb
    | ok s => exact parse_append_of_ok_of_ok h ha hb

/-- a dump with an empty line in it -/
def typedDump : Text := "type:0\n\nversion:1\r\n"

/-- a dump in which a type comes twice -/
def retypedDump : Text := "token:9\n type : 3\ntype:2\n"

/-- The type keeps its place and gets the value it has last; a malformed line is counted from the start of the first
dump. -/
theorem parse_append_retyped :
    typedDump.Ended ∧
    (parse (typedDump ++ retypedDump)).map Record.toList =
      .ok [(Field.type, .integer 2), (Field.version, .integer 1), (Field.token, .integer 9)] ∧
    parse (typedDump ++ "\nno colon\n") = .error (.malformedLine 5 "no colon") := by
  have h : typedDump.Ended := by decide
  refine ⟨h, ?_, ?_⟩
  · rw [parse_append typedDump retypedDump h]
    rfl
  · rw [parse_append typedDump _ h]
    rfl

end Dump

end DeviceDump
