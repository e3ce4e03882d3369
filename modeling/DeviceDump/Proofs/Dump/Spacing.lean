/-
The same dump from another printer. A line may come with other blanks at the ends of its name and of its value, and
with or without a carriage return before its newline. What stands between those blanks is the same, and reading trims
them away, one carriage return already with the newline.
- `scan_eq_of_alike`: reading depends on nothing but what each line says and which lines are empty.
- `alike_of_respaced`: a line with other blanks is alike, whatever of its ending is left.
- `parse_eq_of_writtenAs`: both dumps are read as the same record, or fail with the same fault.
-/
import DeviceDump.Proofs.Dump.Names

namespace DeviceDump.Dump

/-! ## Lines that are alike -/

/-- two lines that say the same under every number, and of which both or none are empty -/
structure Alike (line other : Text) : Prop where
  empty : line.isEmpty = other.isEmpty
  reading : ∀ number, readLine line number = readLine other number

theorem Alike.refl (line : Text) : Alike line line := ⟨rfl, fun _ => rfl⟩

/-- Lines that give the same name and the same text are alike. -/
theorem alike_of_gives {line other : Text} {name : Name} {raw : Text} (h : Gives line name raw)
    (ho : Gives other name raw) : Alike line other := by
  constructor
  · rw [List.isEmpty_eq_false_iff.2 (ne_nil_of_gives h), List.isEmpty_eq_false_iff.2 (ne_nil_of_gives ho)]
  · intro number
    rw [readLine, readLine, gives_iff.1 h, gives_iff.1 ho]

theorem Reading.run_eq_of_alike {lines others : List Text} (h : List.Forall₂ Alike lines others) (r : Reading)
    (number : Nat) : r.run (lines.zipIdx number) = r.run (others.zipIdx number) := by
  induction h generalizing r number with
  | nil => rfl
  | cons ha _ ih =>
    rw [List.zipIdx_cons, List.zipIdx_cons, run, run, ha.empty, ha.reading]
    split_ifs
    · exact ih r (number + 1)
    · split
      · rfl
      · exact ih _ (number + 1)

theorem scan_eq_of_alike {dump other : Text} (h : List.Forall₂ Alike dump.lines other.lines) :
    scan dump = scan other := Reading.run_eq_of_alike h {} 1

/-! ## Lines with other blanks -/

/-- the same line, or one with other blanks at the ends of its name and of its value -/
inductive Respaced : Text → Text → Prop
  | same (line : Text) : Respaced line line
  | field (name value : Text) {n₁ n₂ v₁ v₂ : Text} (hc : ':' ∉ name) (hn₁ : Text.Framed name n₁)
    (hn₂ : Text.Framed name n₂) (hv₁ : Text.Framed value v₁) (hv₂ : Text.Framed value v₂) :
    Respaced (n₁ ++ ':' :: v₁) (n₂ ++ ':' :: v₂)

/-- Blanks may be put before and behind the name, and before and behind the value. -/
theorem Respaced.added (name value : Text) {p q u v : Text} (hc : ':' ∉ name) (hp : Text.AllBlank p)
    (hq : Text.AllBlank q) (hu : Text.AllBlank u) (hv : Text.AllBlank v) :
    Respaced (name ++ ':' :: value) (p ++ name ++ q ++ ':' :: (u ++ value ++ v)) := by
  have hbare : ∀ core : Text, Text.Framed core core := by
    intro core
    have h : Text.Framed core ([] ++ core ++ []) := .intro [] [] (by decide) (by decide)
    rwa [List.nil_append, List.append_nil] at h
  exact .field name value hc (hbare name) (.intro p q hp hq) (hbare value) (.intro u v hu hv)

theorem gives_of_framed {name value n v : Text} (hc : ':' ∉ name) (hn : Text.Framed name n)
    (hv : Text.Framed value v) : Gives (n ++ ':' :: v) name.trim value.trim := by
  refine ⟨n, v, rfl, ?_, hn.trim_eq, hv.trim_eq⟩
  intro hm
  rcases hn.mem_or_isBlank hm with hm | hb
  · exact hc hm
  · exact absurd hb (by decide)

/-- What a line with other blanks says does not depend on a carriage return at its end. -/
theorem alike_of_respaced {line other : Text} (h : Respaced line other) (hr : '\r' ∉ line) :
    Alike line other ∧ Alike line (Text.chomp other) := by
  cases h with
  | same =>
    have hl : Text.chomp line = line := Text.chomp_of_getLast? fun hl => hr (List.mem_of_mem_getLast? hl)
    rw [hl]
    exact ⟨.refl line, .refl line⟩
  | field name value hc hn₁ hn₂ hv₁ hv₂ =>
    have h₁ := gives_of_framed hc hn₁ hv₁
    have h₂ := gives_of_framed hc hn₂ hv₂
    exact ⟨alike_of_gives h₁ h₂, alike_of_gives h₁ (gives_chomp_iff.2 h₂)⟩

/-! ## Dumps with other blanks -/

/-- a text of these lines, each perhaps with other blanks, and each ended in one of the two ways -/
inductive WrittenAs : List Text → Text → Prop
  | nil : WrittenAs [] []
  | newline {line other text : Text} {rest : List Text} (h : Respaced line other) (ho : Text.OneLine other)
    (ht : WrittenAs rest text) : WrittenAs (line :: rest) (other ++ '\n' :: text)
  | returned {line other text : Text} {rest : List Text} (h : Respaced line other) (ho : Text.OneLine other)
    (ht : WrittenAs rest text) : WrittenAs (line :: rest) (other ++ '\r' :: '\n' :: text)

theorem alike_lines_of_writtenAs {lines : List Text} {text : Text} (h : WrittenAs lines text)
    (hr : ∀ line ∈ lines, '\r' ∉ line) : List.Forall₂ Alike lines text.lines := by
  induction h with
  | nil => exact .nil
  | newline h ho _ ih =>
    rw [Text.lines_append_newline ho]
    have ha := alike_of_respaced h (hr _ List.mem_cons_self)
    exact .cons ha.2 (ih fun l hl => hr l (List.mem_cons_of_mem _ hl))
  | @returned line other text rest h ho _ ih =>
    have hone : Text.OneLine (other ++ ['\r']) := Text.oneLine_append.2 ⟨ho, by decide⟩
    have htext : other ++ '\r' :: '\n' :: text = (other ++ ['\r']) ++ '\n' :: text := by simp
    rw [htext, Text.lines_append_newline hone, Text.chomp_append_return]
    have ha := alike_of_respaced h (hr _ List.mem_cons_self)
    exact .cons ha.1 (ih fun l hl => hr l (List.mem_cons_of_mem _ hl))

theorem lines_lineSeq_of_plain {lines : List Text} (h : ∀ line ∈ lines, Text.OneLine line ∧ '\r' ∉ line) :
    (Text.lineSeq lines).lines = lines := by
  calc (Text.lineSeq lines).lines
      = lines.map Text.chomp := Text.lines_lineSeq fun line hl => (h line hl).1
    _ = lines.map id := by
        apply List.map_congr_left
        intro line hl
        exact Text.chomp_of_getLast? fun hc => (h line hl).2 (List.mem_of_mem_getLast? hc)
    _ = lines := List.map_id lines

theorem scan_eq_of_writtenAs {lines : List Text} {text : Text} (hw : WrittenAs lines text)
    (h : ∀ line ∈ lines, Text.OneLine line ∧ '\r' ∉ line) : scan text = scan (Text.lineSeq lines) := by
  have ha : List.Forall₂ Alike lines text.lines := alike_lines_of_writtenAs hw fun line hl => (h line hl).2
  rw [← lines_lineSeq_of_plain h] at ha
  exact (scan_eq_of_alike ha).symm

/-! ## Main result -/

/-- **Blanks at the ends of names and values do not matter, nor do carriage returns at the ends of lines.** A text of
some lines, written with any such blanks and endings, is read as the text of the bare lines is: as the same record, or
with the same fault under the same number. -/
theorem parse_eq_of_writtenAs {lines : List Text} {text : Text} (hw : WrittenAs lines text)
    (h : ∀ line ∈ lines, Text.OneLine line ∧ '\r' ∉ line) : parse text = parse (Text.lineSeq lines) := by
  rw [parse, parse, scan_eq_of_writtenAs hw h]

/-- four lines, the last one at fault -/
def plainLines : List Text := ["version:1", "", " uri_path:61 62", "type:two"]

/-- the same lines with blanks of many kinds, carriage returns among them -/
def spacedText : Text :=
  ("\t\r version\u3000:\u00a01\r" : Text) ++ '\r' :: '\n' :: ([] ++ '\r' :: '\n' ::
    (("  uri_path:61 62\u2028" : Text) ++ '\n' :: (("type :two\r\r" : Text) ++ '\r' :: '\n' :: [])))

theorem parse_eq_of_writtenAs_spaced :
    WrittenAs plainLines spacedText ∧ (∀ line ∈ plainLines, Text.OneLine line ∧ '\r' ∉ line) ∧
    parse spacedText = .error (.invalidInteger Field.type "two") := by
  have h₁ : Respaced "version:1" "\t\r version\u3000:\u00a01\r" :=
    .added "version" "1" (by decide) (show Text.AllBlank "\t\r " by decide) (show Text.AllBlank "\u3000" by decide)
      (show Text.AllBlank "\u00a0" by decide) (show Text.AllBlank "\r" by decide)
  have h₃ : Respaced " uri_path:61 62" "  uri_path:61 62\u2028" :=
    .added " uri_path" "61 62" (by decide) (show Text.AllBlank " " by decide) (show Text.AllBlank [] by decide)
      (show Text.AllBlank [] by decide) (show Text.AllBlank "\u2028" by decide)
  have h₄ : Respaced "type:two" "type :two\r\r" :=
    .added "type" "two" (by decide) (show Text.AllBlank [] by decide) (show Text.AllBlank " " by decide)
      (show Text.AllBlank [] by decide) (show Text.AllBlank "\r\r" by decide)
  have hw : WrittenAs plainLines spacedText :=
    .returned h₁ (by decide) (.returned (.same []) (by decide) (.newline h₃ (by decide)
      (.returned h₄ (by decide) .nil)))
  have h : ∀ line ∈ plainLines, Text.OneLine line ∧ '\r' ∉ line := by decide
  refine ⟨hw, h, ?_⟩
  rw [parse_eq_of_writtenAs hw h]
  rfl

end DeviceDump.Dump
