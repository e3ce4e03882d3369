/-
Lines. Cutting a text into lines undoes writing lines one after the other (`lines_lineSeq`), but for a carriage return
at the end of a line, which `chomp` takes for a part of the ending. Every line takes one line (`oneLine_of_mem_lines`).
A text of one line is cut into that line, whether or not it is ended (`lines_of_mem_singleLine`).

A text that stops where a line stops (`Ended`) can be followed by another: the lines are those of both, and they are
numbered on (`lines_append`, `numberedLines_append`).

Whoever reads an output sees what stands before each newline (`shownLines`). Those are the lines that were written just
if none of these holds a newline (`shownLines_lineSeq_eq_self_iff`); every newline in one shows a line more
(`length_shownLines_lineSeq`).
-/
import DeviceDump.Proofs.General
import DeviceDump.Proofs.Text.Blank

namespace DeviceDump.Text

/-- a text without a newline, which takes one line when it is written -/
def OneLine (t : Text) : Prop := '\n' ∉ t

instance (t : Text) : Decidable (OneLine t) := inferInstanceAs (Decidable ('\n' ∉ t))

theorem oneLine_append {a b : Text} : OneLine (a ++ b) ↔ OneLine a ∧ OneLine b := by
  rw [OneLine, List.mem_append, not_or]
  rfl

theorem oneLine_nil : OneLine [] := List.not_mem_nil

theorem oneLine_cons {c : Char} {t : Text} : OneLine (c :: t) ↔ c ≠ '\n' ∧ OneLine t := by
  rw [OneLine, List.mem_cons, not_or, ne_comm]
  rfl

theorem oneLine_replicate (n : Nat) {c : Char} (h : c ≠ '\n') : OneLine (List.replicate n c) := by
  intro hn
  exact h (List.eq_of_mem_replicate hn).symm

theorem oneLine_intercalate {c : Char} (hc : c ≠ '\n') {ts : List Text} (h : ∀ t ∈ ts, OneLine t) :
    OneLine ([c].intercalate ts) := by
  induction ts with
  | nil => exact oneLine_nil
  | cons t rest ih =>
    obtain ⟨ht, hrest⟩ := List.forall_mem_cons.1 h
    cases rest with
    | nil => simpa using ht
    | cons u rest =>
      rw [List.intercalate_cons_cons, List.append_assoc, List.singleton_append, oneLine_append, oneLine_cons]
      exact ⟨ht, hc, ih hrest⟩

theorem oneLine_of_forall {t : Text} (h : ∀ c ∈ t, isBlank c = false) : OneLine t :=
  fun hn => absurd (h '\n' hn) (by decide)

theorem chomp_of_getLast? {t : Text} (h : t.getLast? ≠ some '\r') : chomp t = t := if_neg h

theorem chomp_append_return (t : Text) : chomp (t ++ ['\r']) = t := by
  simp [chomp]

/-- A carriage return is a blank, so trimming takes it off in any case. -/
theorem trim_chomp (t : Text) : trim (chomp t) = trim t := by
  unfold chomp
  split_ifs with h
  · obtain ⟨rest, rfl⟩ := List.getLast?_eq_some_iff.1 h
    rw [List.dropLast_concat, trim_append_blank (by decide)]
  · rfl

/-- Of a text with another character in it, only what stands behind that can lose a carriage return. -/
theorem chomp_append_cons {d : Char} (hd : d ≠ '\r') (a b : Text) : chomp (a ++ d :: b) = a ++ d :: chomp b := by
  rcases List.eq_nil_or_concat b with rfl | ⟨rest, c, rfl⟩
  · have : (a ++ [d]).getLast? ≠ some '\r' := by simpa using hd
    rw [chomp_of_getLast? this]
    rfl
  · by_cases hc : c = '\r'
    · subst hc
      have hrest : a ++ d :: (rest ++ ['\r']) = (a ++ d :: rest) ++ ['\r'] := by simp
      rw [List.concat_eq_append, hrest, chomp_append_return, chomp_append_return]
    · have h₁ : chomp (rest.concat c) = rest.concat c := chomp_of_getLast? (by simpa using hc)
      rw [h₁]
      exact chomp_of_getLast? (by simpa [List.getLast?_cons] using hc)

theorem mem_of_mem_chomp {t : Text} {c : Char} (h : c ∈ chomp t) : c ∈ t := by
  unfold chomp at h
  split_ifs at h
  · exact List.mem_of_mem_dropLast h
  · exact h

theorem endedLines_cons (t : Text) {rest : List Text} (h : rest ≠ []) :
    endedLines (t :: rest) = chomp t :: endedLines rest := by
  obtain ⟨u, rest, rfl⟩ := List.exists_cons_of_ne_nil h
  rfl

theorem endedLines_append (pieces : List Text) {rest : List Text} (h : rest ≠ []) :
    endedLines (pieces ++ rest) = pieces.map chomp ++ endedLines rest := by
  induction pieces with
  | nil => rfl
  | cons t others ih =>
    have hne : others ++ rest ≠ [] := fun hnil => h (List.append_eq_nil_iff.1 hnil).2
    rw [List.cons_append, endedLines_cons t hne, ih, List.map_cons, List.cons_append]

/-- What stands before a newline is cut into lines that are all ended. -/
theorem lines_append_cons (a b : Text) :
    lines (a ++ '\n' :: b) = (a.splitOnP (· == '\n')).map chomp ++ lines b := by
  rw [lines, List.splitOnP_append_cons a b (by decide), endedLines_append _ (List.splitOnP_ne_nil _ b), lines]

theorem splitOnP_of_oneLine {t : Text} (h : OneLine t) : t.splitOnP (· == '\n') = [t] := by
  apply List.splitOnP_eq_singleton
  intro c hc
  exact beq_eq_false_iff_ne.2 fun hcn => h (hcn ▸ hc)

/-- A text up to its first newline is its first line. -/
theorem lines_append_newline {a : Text} (h : OneLine a) (b : Text) : lines (a ++ '\n' :: b) = chomp a :: lines b := by
  rw [lines_append_cons, splitOnP_of_oneLine h, List.map_singleton, List.singleton_append]

theorem lineSeq_cons_eq_append (t : Text) (rest : List Text) : lineSeq (t :: rest) = t ++ '\n' :: lineSeq rest := by
  simp [line]

theorem lines_lineSeq {ts : List Text} (h : ∀ t ∈ ts, OneLine t) : lines (lineSeq ts) = ts.map chomp := by
  induction ts with
  | nil => rfl
  | cons t rest ih =>
    rw [lineSeq_cons_eq_append, lines_append_newline (h t List.mem_cons_self),
      ih fun u hu => h u (List.mem_cons_of_mem t hu), List.map_cons]

theorem mem_of_mem_endedLines {pieces : List Text} {l : Text} (h : l ∈ endedLines pieces) :
    ∃ piece ∈ pieces, ∀ c ∈ l, c ∈ piece := by
  induction pieces with
  | nil => cases h
  | cons t rest ih =>
    cases rest with
    | nil =>
      unfold endedLines at h
      split_ifs at h
      · cases h
      · exact ⟨t, List.mem_cons_self, fun c hc => List.mem_singleton.1 h ▸ hc⟩
    | cons u rest =>
      rcases List.mem_cons.1 h with rfl | h
      · exact ⟨t, List.mem_cons_self, fun c hc => mem_of_mem_chomp hc⟩
      · obtain ⟨piece, hp, hl⟩ := ih h
        exact ⟨piece, List.mem_cons_of_mem t hp, hl⟩

theorem oneLine_of_mem_lines {t l : Text} (h : l ∈ lines t) : OneLine l := by
  obtain ⟨piece, hp, hl⟩ := mem_of_mem_endedLines h
  intro hn
  have := List.forall_of_mem_splitOnP hp '\n' (hl '\n' hn)
  simp at this

theorem mem_lines_of_mem_numberedLines {t : Text} {l : Text × Nat} (h : l ∈ numberedLines t) : l.1 ∈ lines t :=
  List.fst_mem_of_mem_zipIdx h

/-! ## Texts of one line -/

/-- the texts that consist of one line, which is left open or ended in one of the two ways -/
def singleLine (line : Text) : List Text := [line, line ++ ['\n'], line ++ ['\r', '\n']]

theorem lines_of_mem_singleLine {line text : Text} (h : text ∈ singleLine line) (hone : OneLine line)
    (hne : line ≠ []) (hr : line.getLast? ≠ some '\r') : text.lines = [line] := by
  simp only [singleLine, List.mem_cons, List.not_mem_nil, or_false] at h
  rcases h with rfl | rfl | rfl
  · rw [lines, splitOnP_of_oneLine hone, endedLines, if_neg (by simpa using hne)]
  · rw [lines_append_newline hone, chomp_of_getLast? hr, lines_nil]
  · have hreturn : OneLine (line ++ ['\r']) := oneLine_append.2 ⟨hone, by decide⟩
    have hsplit : line ++ ['\r', '\n'] = (line ++ ['\r']) ++ '\n' :: [] := by simp
    rw [hsplit, lines_append_newline hreturn, chomp_append_return, lines_nil]

/-! ## Texts one after the other -/

/-- a text that stops where a line stops: it is empty, or its last character is a newline -/
def Ended (t : Text) : Prop := t = [] ∨ t.getLast? = some '\n'

instance (t : Text) : Decidable (Ended t) := inferInstanceAs (Decidable (t = [] ∨ t.getLast? = some '\n'))

theorem Ended.append_line (a t : Text) : Ended (a ++ line t) := Or.inr (by simp [line])

theorem lines_append {a : Text} (h : Ended a) (b : Text) : lines (a ++ b) = lines a ++ lines b := by
  rcases h with rfl | h
  · rfl
  · obtain ⟨before, rfl⟩ := List.getLast?_eq_some_iff.1 h
    have hone := lines_append_cons before []
    rw [lines_nil, List.append_nil] at hone
    rw [hone, List.append_assoc, List.singleton_append, lines_append_cons]

/-- The lines of a text that follows are numbered on from the last line of the first. -/
theorem numberedLines_append {a : Text} (h : Ended a) (b : Text) :
    numberedLines (a ++ b) = numberedLines a ++ (numberedLines b).map fun l => (l.1, l.2 + (lines a).length) := by
  rw [numberedLines, numberedLines, numberedLines, lines_append h, List.zipIdx_append, Nat.add_comm 1,
    ← List.map_snd_add_zipIdx_eq_zipIdx]
  rfl

theorem number_of_mem_numberedLines {t : Text} {l : Text × Nat} (h : l ∈ numberedLines t) :
    1 ≤ l.2 ∧ l.2 ≤ (lines t).length := by
  have h₁ := List.le_snd_of_mem_zipIdx h
  have h₂ := List.snd_lt_add_of_mem_zipIdx h
  omega

/-- The number of a line says how many lines there are before it. -/
theorem lines_of_numberedLines {t line : Text} {number : Nat} {before after : List (Text × Nat)}
    (h : numberedLines t = before ++ (line, number) :: after) :
    lines t = before.map Prod.fst ++ line :: after.map Prod.fst ∧ number = before.length + 1 := by
  have hat : (numberedLines t)[before.length]? = some (line, number) := by
    rw [h, List.getElem?_append_right le_rfl, Nat.sub_self, List.getElem?_cons_zero]
  rw [numberedLines, List.getElem?_zipIdx, Option.map_eq_some_iff] at hat
  obtain ⟨_, -, hpair⟩ := hat
  have hlines := congrArg (List.map Prod.fst) h
  rw [numberedLines, List.zipIdx_map_fst, List.map_append, List.map_cons] at hlines
  exact ⟨hlines, by rw [← (Prod.mk.inj hpair).2, Nat.add_comm]⟩

/-! ## Lines of an output -/

/-- what stands before each newline, from the newline before it on -/
def shownLines (t : Text) : List Text := (t.splitOnP (· == '\n')).dropLast

/-- A line is shown as the pieces between its newlines. -/
theorem shownLines_lineSeq (ts : List Text) : shownLines (lineSeq ts) = ts.flatMap (·.splitOnP (· == '\n')) := by
  induction ts with
  | nil => rfl
  | cons t rest ih =>
    rw [List.flatMap_cons, ← ih, shownLines, lineSeq_cons_eq_append,
      List.splitOnP_append_cons t (lineSeq rest) (by decide),
      List.dropLast_append_of_ne_nil (List.splitOnP_ne_nil _ (lineSeq rest)), shownLines]

/-- **Lines are shown as they were written just if each of them takes one line.** -/
theorem shownLines_lineSeq_eq_self_iff {ts : List Text} : shownLines (lineSeq ts) = ts ↔ ∀ t ∈ ts, OneLine t := by
  rw [shownLines_lineSeq]
  constructor
  · intro h t ht
    rw [← h] at ht
    obtain ⟨u, -, hu⟩ := List.mem_flatMap.1 ht
    intro hn
    have := List.forall_of_mem_splitOnP hu '\n' hn
    simp at this
  · intro h
    induction ts with
    | nil => rfl
    | cons t rest ih =>
      rw [List.flatMap_cons, splitOnP_of_oneLine (h t List.mem_cons_self), List.singleton_append,
        ih fun u hu => h u (List.mem_cons_of_mem t hu)]

theorem length_shownLines_lineSeq (ts : List Text) :
    (shownLines (lineSeq ts)).length = ts.length + (ts.map (·.count '\n')).sum := by
  rw [shownLines_lineSeq]
  induction ts with
  | nil => rfl
  | cons t rest ih =>
    rw [List.flatMap_cons, List.length_append, List.length_splitOnP, ih, List.length_cons, List.map_cons, List.sum_cons,
      List.count]
    omega

end DeviceDump.Text
