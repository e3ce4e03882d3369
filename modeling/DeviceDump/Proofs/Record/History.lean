/-
Records as the outcome of a history of insertions. A history is a list of entries, names with values; the record
`Record.ofList entries` is what inserting them one after the other leaves.

The array of fields and the index are two containers that every insertion must keep in step. `Indexed` says that they
are: no name stands twice in the array, and the index maps exactly the names in it, each to its own place.
- `insert_indexed`, `ofList_indexed`: one insertion keeps that, so every history does.
- `get?_ofList`, `names_ofList`: the record answers for its history. A look-up gives the value inserted last, the
  names stand in the order of their first insertion.
- `beq_iff_toList`, `eq_of_toList_eq`: what iteration shows decides the whole record, its index included.
- `ofList_keeps_history`: all of it in one statement, with what a single insertion changes and leaves alone.
-/
import DeviceDump.Proofs.General
import DeviceDump.Record

namespace DeviceDump

/-! ## Entries -/

/-- the names of entries, each once, in the order in which they first appear -/
def firstNames (entries : List (Name × Value)) : List Name := (entries.map Prod.fst).eraseDups

/-- the value that entries give a name last -/
def latest? (entries : List (Name × Value)) (name : Name) : Option Value := entries.reverse.lookup name

theorem firstNames_concat (entries : List (Name × Value)) (name : Name) (value : Value) :
    firstNames (entries ++ [(name, value)]) =
      if name ∈ firstNames entries then firstNames entries else firstNames entries ++ [name] := by
  simp only [firstNames, List.map_append, List.map_cons, List.map_nil, List.eraseDups_append, List.mem_eraseDups]
  by_cases h : name ∈ entries.map Prod.fst
  · rw [if_pos h]
    simp [List.removeAll, List.mem_map.1 h]
  · rw [if_neg h]
    have : ∀ value, (name, value) ∉ entries := fun value hv => h (List.mem_map_of_mem hv)
    simp [List.removeAll, this, List.eraseDups_cons]

theorem latest?_concat (entries : List (Name × Value)) (name other : Name) (value : Value) :
    latest? (entries ++ [(name, value)]) other = if other = name then some value else latest? entries other := by
  simp only [latest?, List.reverse_append, List.reverse_singleton, List.singleton_append, List.lookup_cons]
  by_cases h : other = name
  · rw [beq_iff_eq.2 h, if_pos h]
  · rw [beq_eq_false_iff_ne.2 h, if_neg h]

theorem mem_of_latest? {entries : List (Name × Value)} {name : Name} {value : Value}
    (h : latest? entries name = some value) : (name, value) ∈ entries := by
  obtain ⟨l₁, l₂, hl, -⟩ := List.lookup_eq_some_iff.1 h
  rw [← List.mem_reverse, hl]
  simp

namespace Record

/-! ## The index -/

/-- the names of the fields in order -/
def names (r : Record) : List Name := r.toList.map Prod.fst

/-- no name stands twice, and the index maps exactly the names of the fields, each to its own place -/
structure Indexed (r : Record) : Prop where
  distinct : r.names.Nodup
  placed : ∀ (name : Name) (place : Nat), r.index[name]? = some place ↔ r.names[place]? = some name

theorem length_names (r : Record) : r.names.length = r.size := by simp [names, toList, size]

theorem getElem?_names (r : Record) (place : Nat) : r.names[place]? = (r.fields[place]?).map Prod.fst := by
  simp [names, toList]

theorem empty_indexed : empty.Indexed := by
  constructor <;> simp [names, toList, empty]

/-- A place that the index gives is a place in the array. -/
theorem Indexed.lt_size {r : Record} (h : r.Indexed) {name : Name} {place : Nat} (hp : r.index[name]? = some place) :
    place < r.size := by
  obtain ⟨hlt, -⟩ := List.getElem?_eq_some_iff.1 ((h.placed name place).1 hp)
  rwa [length_names] at hlt

theorem Indexed.index_eq_none_iff {r : Record} (h : r.Indexed) (name : Name) :
    r.index[name]? = none ↔ name ∉ r.names := by
  rw [List.mem_iff_getElem?, not_exists, Option.eq_none_iff_forall_ne_some]
  exact forall_congr' fun place => not_congr (h.placed name place)

/-- two places of one name are the same place -/
theorem Indexed.place_inj {r : Record} (h : r.Indexed) {name : Name} {i j : Nat} (hi : r.names[i]? = some name)
    (hj : r.names[j]? = some name) : i = j := by
  have h₁ := (h.placed name i).2 hi
  rw [(h.placed name j).2 hj] at h₁
  exact (Option.some.inj h₁).symm

/-! ## One insertion -/

/-- A put gives back what a look-up would have given just before. -/
theorem put_previous (r : Record) (name : Name) (value : Value) : (r.put name value).1 = r.get? name := by
  unfold put get?
  split
  · rfl
  · rename_i h
    simp [h]

/-- a name that is not there goes to the end -/
theorem Indexed.insert_new {r : Record} (h : r.Indexed) {name : Name} (hn : name ∉ r.names) (value : Value) :
    r.insert name value = ⟨r.fields.push (name, value), r.index.insert name r.size⟩ := by
  simp [insert, put, (h.index_eq_none_iff name).2 hn, size]

/-- a name that is there keeps its place -/
theorem Indexed.insert_known {r : Record} (h : r.Indexed) {name : Name} {place : Nat}
    (hp : r.names[place]? = some name) (value : Value) :
    r.insert name value = { r with fields := r.fields.modify place fun field => (field.1, value) } := by
  simp [insert, put, (h.placed name place).2 hp]

theorem Indexed.names_insert {r : Record} (h : r.Indexed) (name : Name) (value : Value) :
    (r.insert name value).names = if name ∈ r.names then r.names else r.names ++ [name] := by
  split_ifs with hn
  · obtain ⟨place, hp⟩ := List.mem_iff_getElem?.1 hn
    rw [h.insert_known hp]
    apply List.ext_getElem?
    intro i
    simp only [getElem?_names, Array.getElem?_modify]
    split_ifs
    · simp [Function.comp_def]
    · rfl
  · rw [h.insert_new hn]
    simp [names, toList]

theorem Indexed.index_insert {r : Record} (h : r.Indexed) (name other : Name) (value : Value) :
    (r.insert name value).index[other]? = if name ∉ r.names ∧ other = name then some r.size else r.index[other]? := by
  by_cases hn : name ∈ r.names
  · obtain ⟨place, hp⟩ := List.mem_iff_getElem?.1 hn
    rw [h.insert_known hp, if_neg fun hc => hc.1 hn]
  · have hc : compare name other = .eq ↔ other = name := by rw [Std.compare_eq_iff_eq, eq_comm]
    rw [h.insert_new hn, Std.TreeMap.getElem?_insert]
    simp [hn, hc]

/-- **One insertion keeps the two containers in step.** -/
theorem insert_indexed {r : Record} (h : r.Indexed) (name : Name) (value : Value) :
    (r.insert name value).Indexed := by
  by_cases hn : name ∈ r.names
  · have hnames : (r.insert name value).names = r.names := by rw [h.names_insert, if_pos hn]
    refine ⟨hnames ▸ h.distinct, fun other place => ?_⟩
    rw [hnames, h.index_insert, if_neg fun hc => hc.1 hn]
    exact h.placed other place
  · have hnames : (r.insert name value).names = r.names ++ [name] := by rw [h.names_insert, if_neg hn]
    refine ⟨?_, fun other place => ?_⟩
    · rw [hnames, List.nodup_append]
      refine ⟨h.distinct, List.nodup_singleton name, fun a ha b hb => ?_⟩
      rw [List.mem_singleton.1 hb]
      exact fun hab => hn (hab ▸ ha)
    · rw [hnames, h.index_insert, List.getElem?_concat_eq_some_iff, length_names]
      by_cases ho : other = name
      · subst ho
        have hne : r.names[place]? ≠ some other := fun hc => hn (List.mem_of_getElem? hc)
        simp [hn, hne, eq_comm]
      · simp [ho, h.placed]

theorem Indexed.get?_insert {r : Record} (h : r.Indexed) (name other : Name) (value : Value) :
    (r.insert name value).get? other = if other = name then some value else r.get? other := by
  by_cases hn : name ∈ r.names
  · obtain ⟨place, hp⟩ := List.mem_iff_getElem?.1 hn
    have hi := (h.placed name place).2 hp
    have hf : (r.fields[place]?).isSome := by
      rw [getElem?_names] at hp
      cases hc : r.fields[place]? <;> simp [hc] at hp ⊢
    rw [h.insert_known hp]
    simp only [get?, Array.getElem?_modify]
    split_ifs with ho
    · subst ho
      obtain ⟨field, hfield⟩ := Option.isSome_iff_exists.1 hf
      simp [hi, hfield]
    · cases hc : r.index[other]? with
      | none => rfl
      | some p =>
        have hne : place ≠ p := by
          rintro rfl
          have := (h.placed other place).1 hc
          rw [hp] at this
          exact ho (Option.some.inj this).symm
        simp [hne]
  · have hsize : r.fields.size = r.size := rfl
    rw [get?, h.index_insert, h.insert_new hn]
    split_ifs with ho hc
    · simp [hsize.symm]
    · exact absurd ho.2 hc
    · rename_i hc'
      exact absurd ⟨hn, hc'⟩ ho
    · rw [get?]
      cases hp : r.index[other]? with
      | none => rfl
      | some p =>
        have := h.lt_size hp
        simp [Array.getElem?_push, Nat.ne_of_lt this, hsize]

/-- Looking up through the index finds what a linear search of the fields finds. -/
theorem Indexed.get?_eq_lookup {r : Record} (h : r.Indexed) (name : Name) : r.get? name = r.toList.lookup name := by
  ext value
  rw [List.lookup_eq_some_iff_mem h.distinct, List.mem_iff_getElem?, get?]
  cases hi : r.index[name]? with
  | none =>
    have hn : name ∉ r.names := (h.index_eq_none_iff name).1 hi
    simp only [reduceCtorEq, false_iff, not_exists]
    intro place hp
    exact hn (List.mem_of_getElem? (i := place) (by simp [names, hp]))
  | some place =>
    have hp : r.names[place]? = some name := (h.placed name place).1 hi
    obtain ⟨field, hfield, hname⟩ := Option.map_eq_some_iff.1 ((getElem?_names r place).symm.trans hp)
    constructor
    · intro hv
      refine ⟨place, ?_⟩
      obtain rfl : field.2 = value := by simpa [hfield] using hv
      simpa [toList, ← hname] using hfield
    · rintro ⟨i, hv⟩
      have hv' : r.fields[i]? = some (name, value) := by simpa [toList] using hv
      obtain rfl : place = i := h.place_inj hp (by simp [getElem?_names, hv'])
      simp [hv']

theorem Indexed.contains_iff {r : Record} (h : r.Indexed) (name : Name) :
    r.contains name = true ↔ name ∈ r.names := by
  rw [contains, h.get?_eq_lookup, List.lookup_isSome_iff, names, List.mem_map]
  exact exists_congr fun field => and_congr_right fun _ => beq_iff_eq.trans eq_comm

theorem Indexed.size_insert {r : Record} (h : r.Indexed) (name : Name) (value : Value) :
    (r.insert name value).size = if r.get? name = none then r.size + 1 else r.size := by
  have hc : r.get? name = none ↔ name ∉ r.names := by
    rw [← h.contains_iff, contains, Bool.not_eq_true, Option.isSome_eq_false_iff, Option.isNone_iff_eq_none]
  rw [← length_names, h.names_insert, ← length_names]
  by_cases hn : name ∈ r.names
  · rw [if_pos hn, if_neg fun hg => hc.1 hg hn]
  · rw [if_neg hn, if_pos (hc.2 hn), List.length_append, List.length_singleton]

/-! ## Whole histories -/

theorem ofList_concat (entries : List (Name × Value)) (name : Name) (value : Value) :
    ofList (entries ++ [(name, value)]) = (ofList entries).insert name value := by
  simp [ofList, insertAll, List.foldl_append]

/-- **Every history keeps the two containers in step.** -/
theorem ofList_indexed (entries : List (Name × Value)) : (ofList entries).Indexed := by
  induction entries using List.reverseRecOn with
  | nil => exact empty_indexed
  | append_singleton entries e ih =>
    obtain ⟨name, value⟩ := e
    rw [ofList_concat]
    exact insert_indexed ih name value

/-- the names stand in the order of their first insertion -/
theorem names_ofList (entries : List (Name × Value)) : (ofList entries).names = firstNames entries := by
  induction entries using List.reverseRecOn with
  | nil => rfl
  | append_singleton entries e ih =>
    obtain ⟨name, value⟩ := e
    rw [ofList_concat, (ofList_indexed entries).names_insert, ih, firstNames_concat]

/-- a look-up gives the value inserted last -/
theorem get?_ofList (entries : List (Name × Value)) (name : Name) :
    (ofList entries).get? name = latest? entries name := by
  induction entries using List.reverseRecOn with
  | nil => simp [ofList, insertAll, empty, get?, latest?]
  | append_singleton entries e ih =>
    obtain ⟨n, value⟩ := e
    rw [ofList_concat, (ofList_indexed entries).get?_insert, ih, latest?_concat]

theorem mem_toList_ofList {entries : List (Name × Value)} {name : Name} {value : Value} :
    (name, value) ∈ (ofList entries).toList ↔ latest? entries name = some value := by
  have h := ofList_indexed entries
  rw [← List.lookup_eq_some_iff_mem h.distinct, ← h.get?_eq_lookup, get?_ofList]

/-! ## Equality -/

/-- the index that belongs to fields with the given names -/
def placesOf (names : List Name) : Std.TreeMap Name Nat := names.zipIdx.foldl (fun t e => t.insert e.1 e.2) ∅

theorem placesOf_concat (names : List Name) (name : Name) :
    placesOf (names ++ [name]) = (placesOf names).insert name names.length := by
  simp [placesOf, List.zipIdx_append, List.foldl_append]

/-- The index of a history's record is made from the names alone, so a replaced value leaves no trace in it. -/
theorem index_ofList (entries : List (Name × Value)) : (ofList entries).index = placesOf (ofList entries).names := by
  induction entries using List.reverseRecOn with
  | nil => rfl
  | append_singleton entries e ih =>
    obtain ⟨name, value⟩ := e
    have h := ofList_indexed entries
    rw [ofList_concat, h.names_insert]
    by_cases hn : name ∈ (ofList entries).names
    · obtain ⟨place, hp⟩ := List.mem_iff_getElem?.1 hn
      rw [h.insert_known hp, if_pos hn, ← ih]
    · rw [h.insert_new hn, if_neg hn, placesOf_concat, ← ih, length_names]

/-- Two histories that iterate alike leave one and the same record. -/
theorem eq_of_toList_eq {entries others : List (Name × Value)}
    (h : (ofList entries).toList = (ofList others).toList) : ofList entries = ofList others := by
  have hf : (ofList entries).fields = (ofList others).fields := Array.toList_inj.1 h
  have hi : (ofList entries).index = (ofList others).index := by
    rw [index_ofList, index_ofList, names, names, h]
  exact congrArg₂ mk hf hi

theorem toList_ofList_of_nodup {entries : List (Name × Value)} (h : (entries.map Prod.fst).Nodup) :
    (ofList entries).toList = entries := by
  induction entries using List.reverseRecOn with
  | nil => rfl
  | append_singleton entries e ih =>
    obtain ⟨name, value⟩ := e
    rw [List.map_append, List.nodup_append] at h
    have hn : name ∉ (ofList entries).names := by
      rw [names, ih h.1]
      exact fun hm => h.2.2 name hm name (by simp) rfl
    rw [ofList_concat, (ofList_indexed entries).insert_new hn, toList, Array.toList_push]
    rw [toList] at ih
    rw [ih h.1]

/-- Inserting the fields of a record into the empty one gives the record again. -/
theorem ofList_toList (entries : List (Name × Value)) : ofList (ofList entries).toList = ofList entries :=
  eq_of_toList_eq (toList_ofList_of_nodup (ofList_indexed entries).distinct)

/-- **Iteration decides equality**, although equality compares the index as well. -/
theorem Indexed.beq_iff_toList {r s : Record} (hr : r.Indexed) (hs : s.Indexed) :
    (r == s) = true ↔ r.toList = s.toList := by
  have hb : (r == s) = (r.fields == s.fields && r.index == s.index) := rfl
  rw [hb, Bool.and_eq_true, beq_iff_eq]
  constructor
  · intro h
    rw [toList, toList, h.1]
  · intro h
    refine ⟨Array.toList_inj.1 h, Std.TreeMap.beq_iff_equiv.2 (.of_forall_constGet?_eq fun name => ?_)⟩
    have hn : r.names = s.names := by rw [names, names, h]
    ext place
    exact (hr.placed name place).trans (hn ▸ (hs.placed name place).symm)

/-! ## Main result -/

/-- a record answers for a history: look-ups, iteration and size show what was inserted -/
structure AnswersFor (r : Record) (entries : List (Name × Value)) : Prop where
  get : ∀ name, r.get? name = latest? entries name
  search : ∀ name, r.get? name = r.toList.lookup name
  contained : ∀ name, r.contains name = true ↔ name ∈ entries.map Prod.fst
  order : r.toList.map Prod.fst = firstNames entries
  count : r.size = (firstNames entries).length

/-- what one put does to a record, and what it leaves alone -/
structure PutEffect (r : Record) (name : Name) (value : Value) : Prop where
  previous : (r.put name value).1 = r.get? name
  stored : (r.insert name value).get? name = some value
  others : ∀ other, other ≠ name → (r.insert name value).get? other = r.get? other
  places : ∀ (other : Name) (place : Nat),
    r.index[other]? = some place → (r.insert name value).index[other]? = some place
  order : r.names <+: (r.insert name value).names
  growth : (r.insert name value).size = if (r.put name value).1 = none then r.size + 1 else r.size

theorem ofList_answersFor (entries : List (Name × Value)) : (ofList entries).AnswersFor entries where
  get := get?_ofList entries
  search := (ofList_indexed entries).get?_eq_lookup
  contained name := by rw [(ofList_indexed entries).contains_iff, names_ofList, firstNames, List.mem_eraseDups]
  order := names_ofList entries
  count := by rw [← length_names, names_ofList]

theorem Indexed.putEffect {r : Record} (h : r.Indexed) (name : Name) (value : Value) : r.PutEffect name value where
  previous := put_previous r name value
  stored := by rw [h.get?_insert, if_pos rfl]
  others other ho := by rw [h.get?_insert, if_neg ho]
  places other place hp := by
    have hm : other ∈ r.names := List.mem_of_getElem? ((h.placed other place).1 hp)
    rw [h.index_insert, if_neg fun hc => hc.1 (hc.2 ▸ hm), hp]
  order := by
    rw [h.names_insert]
    split_ifs
    · exact List.prefix_refl _
    · exact List.prefix_append _ _
  growth := by rw [put_previous, h.size_insert]

/-- **A record keeps its history.** For every sequence of insertions into the empty record: the index holds exactly
the names of the fields, each with its own place, and no place outside the array; the record answers for the history;
one more put, whatever it is, gives back the earlier value and touches no other name; and two such records are equal
just if they iterate alike. -/
theorem ofList_keeps_history (entries : List (Name × Value)) :
    (ofList entries).Indexed ∧
    (∀ name : Name, name ∈ (ofList entries).index ↔ name ∈ (ofList entries).names) ∧
    (∀ (name : Name) (place : Nat), (ofList entries).index[name]? = some place → place < (ofList entries).size) ∧
    (ofList entries).AnswersFor entries ∧
    (∀ name value, (ofList entries).PutEffect name value) ∧
    ∀ others, (ofList entries == ofList others) = true ↔ (ofList entries).toList = (ofList others).toList := by
  have h := ofList_indexed entries
  refine ⟨h, fun name => ?_, fun name place => h.lt_size, ofList_answersFor entries, h.putEffect,
    fun others => h.beq_iff_toList (ofList_indexed others)⟩
  rw [Std.TreeMap.mem_iff_isSome_getElem?, Option.isSome_iff_ne_none, ne_eq, h.index_eq_none_iff, not_not]

end Record

end DeviceDump
