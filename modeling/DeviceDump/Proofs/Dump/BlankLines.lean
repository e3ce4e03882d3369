/-
Lines of nothing but blanks. One that is put in where a line may start moves all later lines down by one, and whether it
does anything else depends on what is left of it without the carriage return of its ending.
- `parse_line_of_skipped`, `parse_line_of_blank`: nothing is left, and the line is passed over; or blanks are left, and
  the line is at fault like any other without a colon.
- `parse_insert_skipped`, `parse_insert_blank`: what that makes of the dump that the line is put into.
- `parse_insert_blank_line`: a line of blanks can be put in unnoticed just if it is passed over, or if reading ends
  before it.
- `parse_insert_space`: a line with a space in it, which makes a good dump unreadable.
-/
import DeviceDump.Proofs.Dump.Concatenation

namespace DeviceDump

namespace Text

/-- a line of nothing but blanks, or of nothing at all -/
structure BlankLine (t : Text) : Prop where
  blank : AllBlank t
  oneLine : OneLine t

theorem lines_line {t : Text} (h : OneLine t) : lines (line t) = [chomp t] := lines_append_newline h []

/-- Without its ending a line is empty if it was, or if it was a carriage return. -/
theorem chomp_eq_nil_iff {t : Text} : chomp t = [] ↔ t = [] ∨ t = ['\r'] := by
  unfold chomp
  split_ifs with h
  · obtain ⟨rest, rfl⟩ := List.getLast?_eq_some_iff.1 h
    simp
  · constructor
    · exact Or.inl
    · rintro (rfl | rfl)
      · rfl
      · exact absurd rfl h

end Text

namespace Dump

variable {a b w : Text} {r : Record} {e : DumpError}

/-! ## The line by itself -/

theorem numberedLines_line (h : w.OneLine) : (Text.line w).numberedLines = [(w.chomp, 1)] := by
  rw [Text.numberedLines, Text.lines_line h]
  rfl

theorem parse_line_of_skipped (h : w.OneLine) (hw : w.chomp = []) : parse (Text.line w) = .ok .empty := by
  have hs : spokenLines (Text.line w) = [] := by rw [spokenLines, numberedLines_line h, hw]; rfl
  have hall : AllSay (spokenLines (Text.line w)) [] := by rw [hs]; exact .nil
  exact parse_of_allSay hall

theorem parse_line_of_blank (h : w.BlankLine) (hw : w.chomp ≠ []) :
    parse (Text.line w) = .error (.malformedLine 1 w.chomp) := by
  have hc : ':' ∉ w.chomp := fun hm => absurd (h.blank ':' (Text.mem_of_mem_chomp hm)) (by decide)
  have hs : spokenLines (Text.line w) = [(w.chomp, 1)] := by
    rw [spokenLines, numberedLines_line h.oneLine, List.filter_cons_of_pos (by simpa using hw), List.filter_nil]
  apply parse_of_firstFailure
  exact ⟨[], w.chomp, 1, [], hs, by simp, .malformed hc⟩

/-! ## Numbers of later lines -/

/-- the number of a line after another was put in behind the first `count` -/
def moved (count number : Nat) : Nat := if count < number then number + 1 else number

/-- No later line gets the number of the one that was put in. -/
theorem moved_ne (count number : Nat) : moved count number ≠ count + 1 := by
  unfold moved
  split_ifs <;> omega

/-- A malformed line is reported under the number of a line of the dump. -/
theorem number_of_parse_error {dump content : Text} {number : Nat}
    (h : parse dump = .error (.malformedLine number content)) : 1 ≤ number ∧ number ≤ dump.lines.length := by
  obtain ⟨before, line, n, after, hl, -, he⟩ := parse_error_iff.1 h
  have hm : (line, n) ∈ dump.numberedLines := by
    have : (line, n) ∈ spokenLines dump := by rw [hl]; simp
    exact (List.mem_filter.1 this).1
  rcases says_error_iff.1 he with ⟨-, heq⟩ | ⟨before, after, -, -, hd⟩
  · cases heq
    exact Text.number_of_mem_numberedLines hm
  · -- no fault of a value is a malformed line: renumbering it would change it
    have hsame := renumber_of_decode hd (· + 1)
    simp [DumpError.renumber] at hsame

theorem renumber_moved_of_error (h : parse a = .error e) : e.renumber (moved a.lines.length) = e := by
  calc e.renumber (moved a.lines.length)
      = e.renumber id := by
        apply DumpError.renumber_congr
        rintro number content rfl
        exact if_neg (Nat.not_lt.2 (number_of_parse_error h).2)
    _ = e := e.renumber_id

theorem renumber_moved_of_later (h : parse b = .error e) (count : Nat) :
    (e.renumber (· + count)).renumber (moved count) = e.renumber (· + (count + 1)) := by
  rw [DumpError.renumber_renumber]
  apply DumpError.renumber_congr
  rintro number content rfl
  have hn := (number_of_parse_error h).1
  exact if_pos (show count < number + count by omega)

/-! ## The line put in -/

theorem parse_insert_skipped (ha : a.Ended) (h : w.OneLine) (hw : w.chomp = []) (b : Text) :
    parse (a ++ Text.line w ++ b) = (parse (a ++ b)).mapError (·.renumber (moved a.lines.length)) := by
  have hend : (a ++ Text.line w).Ended := .append_line a w
  cases hp : parse a with
  | error e =>
    have he := parse_append_of_error ha hp (Text.line w)
    rw [parse_append_of_error hend he, parse_append_of_error ha hp, Except.mapError, renumber_moved_of_error hp]
  | ok r =>
    have hr : parse (a ++ Text.line w) = .ok r := parse_append_of_ok_of_ok ha hp (parse_line_of_skipped h hw)
    have hlen : (a ++ Text.line w).lines.length = a.lines.length + 1 := by
      rw [Text.lines_append ha, Text.lines_line h, List.length_append, List.length_singleton]
    cases hb : parse b with
    | error e =>
      rw [parse_append_of_ok_of_error hend hr hb, parse_append_of_ok_of_error ha hp hb, Except.mapError, hlen,
        renumber_moved_of_later hb]
    | ok s =>
      rw [parse_append_of_ok_of_ok hend hr hb, parse_append_of_ok_of_ok ha hp hb]
      rfl

theorem parse_insert_blank (ha : a.Ended) (h : w.BlankLine) (hw : w.chomp ≠ []) (hp : parse a = .ok r) (b : Text) :
    parse (a ++ Text.line w ++ b) = .error (.malformedLine (a.lines.length + 1) w.chomp) := by
  have hr := parse_append_of_ok_of_error ha hp (parse_line_of_blank h hw)
  rw [parse_append_of_error (.append_line a w) hr, DumpError.renumber, Nat.add_comm]

theorem parse_insert_of_error (ha : a.Ended) (hp : parse a = .error e) (w b : Text) :
    parse (a ++ Text.line w ++ b) = (parse (a ++ b)).mapError (·.renumber (moved a.lines.length)) := by
  rw [List.append_assoc, parse_append_of_error ha hp, parse_append_of_error ha hp, Except.mapError,
    renumber_moved_of_error hp]

/-- The fault of the line put in is no fault of the dump without it. -/
theorem mapError_moved_ne (outcome : Except DumpError Record) (count : Nat) (content : Text) :
    outcome.mapError (·.renumber (moved count)) ≠ .error (.malformedLine (count + 1) content) := by
  intro h
  cases outcome with
  | ok r => cases h
  | error e =>
    obtain ⟨number, -, hn⟩ := DumpError.renumber_eq_malformedLine_iff.1 (Except.error.inj h)
    exact moved_ne count number hn

/-! ## Main result -/

/-- **Which lines of blanks can be put in unnoticed.** Where a line may start, one of nothing but blanks changes
nothing, but for the number of a malformed line after it, just if it is empty or a single carriage return, or if a line
before it is at fault. Else it is at fault itself: the dump fails with it, good or not without it. -/
theorem parse_insert_blank_line (a b w : Text) (ha : a.Ended) (hw : w.BlankLine) :
    (parse (a ++ Text.line w ++ b) = (parse (a ++ b)).mapError (·.renumber (moved a.lines.length)) ↔
      (w = [] ∨ w = ['\r']) ∨ ∃ e, parse a = .error e) ∧
    ((¬ (w = [] ∨ w = ['\r']) ∧ ∃ r, parse a = .ok r) →
      parse (a ++ Text.line w ++ b) = .error (.malformedLine (a.lines.length + 1) w.chomp)) := by
  simp only [← Text.chomp_eq_nil_iff]
  constructor
  · constructor
    · intro h
      by_contra hno
      obtain ⟨hne, hgood⟩ := not_or.1 hno
      cases hp : parse a with
      | error e => exact hgood ⟨e, hp⟩
      | ok r =>
        rw [parse_insert_blank ha hw hne hp] at h
        exact mapError_moved_ne _ _ _ h.symm
    · rintro (hskip | ⟨e, hp⟩)
      · exact parse_insert_skipped ha hw.oneLine hskip b
      · exact parse_insert_of_error ha hp w b
  · rintro ⟨hne, r, hp⟩
    exact parse_insert_blank ha hw hne hp b

/-- A carriage return and a newline between a good line and a malformed one. -/
theorem parse_insert_blank_line_returned :
    Text.Ended "version:1\n" ∧ Text.BlankLine "\r" ∧
    parse (("version:1\n" : Text) ++ Text.line "\r" ++ ("junk\n" : Text)) = .error (.malformedLine 3 "junk") := by
  have ha : Text.Ended "version:1\n" := by decide
  have hw : Text.BlankLine "\r" := ⟨by decide, by decide⟩
  refine ⟨ha, hw, ?_⟩
  rw [(parse_insert_blank_line _ "junk\n" _ ha hw).1.2 (Or.inl (Or.inr rfl))]
  rfl

/-- **A line with a space in it is not skipped.** Between two good lines it makes the dump unreadable, which without it
is a record of two fields. -/
theorem parse_insert_space :
    Text.Ended "version:1\n" ∧ Text.BlankLine " " ∧
    (parse (("version:1\n" : Text) ++ ("type:0\n" : Text))).map Record.toList =
      .ok [(Field.version, .integer 1), (Field.type, .integer 0)] ∧
    parse (("version:1\n" : Text) ++ Text.line " " ++ ("type:0\n" : Text)) = .error (.malformedLine 2 " ") ∧
    parse (("version:1\n" : Text) ++ Text.line " " ++ ("type:0\n" : Text)) ≠
      (parse (("version:1\n" : Text) ++ ("type:0\n" : Text))).mapError (·.renumber (moved 1)) := by
  have hfault : parse (("version:1\n" : Text) ++ Text.line " " ++ ("type:0\n" : Text)) =
      .error (.malformedLine 2 " ") := by rfl
  refine ⟨by decide, ⟨by decide, by decide⟩, by rfl, hfault, ?_⟩
  intro h
  exact mapError_moved_ne _ 1 " " (h.symm.trans hfault)

end Dump

end DeviceDump
