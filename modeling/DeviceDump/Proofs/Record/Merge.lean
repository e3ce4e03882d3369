/-
Histories that go on. Entries put after others hide what these say of a name (`latest?_append`) and bring their own
new names (`firstNames_append`). Order of names and look-ups decide a record (`ofList_eq_of_answers`), so of the later
entries only the record that they make by themselves counts.
- `get?_merge`, `size_merge`: what a merge replaces are the values of the names that both records have, and with the
  other names of the second record it is longer than the first.
- `ofList_append`: a history that goes on makes the record of its first part, merged with the record of the rest. The
  merge puts fewer entries than the history, since a name that came again in the rest is put once.
-/
import DeviceDump.Proofs.Record.History

namespace DeviceDump

/-! ## Entries after others -/

theorem latest?_append (entries others : List (Name × Value)) (name : Name) :
    latest? (entries ++ others) name = (latest? others name).or (latest? entries name) := by
  rw [latest?, List.reverse_append, List.lookup_append, latest?, latest?]

theorem firstNames_append (entries others : List (Name × Value)) :
    firstNames (entries ++ others) = firstNames entries ++ (firstNames others).filter (· ∉ firstNames entries) := by
  induction others using List.reverseRecOn with
  | nil => simp [firstNames]
  | append_singleton others e ih =>
    obtain ⟨name, value⟩ := e
    rw [← List.append_assoc, firstNames_concat, firstNames_concat, ih]
    by_cases hold : name ∈ firstNames entries
    · -- the first part has the name, so nothing new comes
      rw [if_pos (List.mem_append_left _ hold)]
      split_ifs
      · rfl
      · simp [List.filter_append, hold]
    · have hmem : name ∈ firstNames entries ++ (firstNames others).filter (· ∉ firstNames entries) ↔
          name ∈ firstNames others := by
        simp [hold]
      by_cases hnew : name ∈ firstNames others
      · rw [if_pos (hmem.2 hnew), if_pos hnew]
      · rw [if_neg (mt hmem.1 hnew), if_neg hnew]
        simp [List.filter_append, hold]

namespace Record

/-! ## Records after others -/

/-- A record is decided by the order of its names and by its look-ups. -/
theorem ofList_eq_of_answers {entries others : List (Name × Value)} (hn : firstNames entries = firstNames others)
    (hg : ∀ name, latest? entries name = latest? others name) : ofList entries = ofList others := by
  have hnames : (ofList entries).names = (ofList others).names := by
    calc (ofList entries).names
        = firstNames entries := names_ofList entries
      _ = firstNames others := hn
      _ = (ofList others).names := (names_ofList others).symm
  have hlen : (ofList entries).toList.length = (ofList others).toList.length := by
    simpa [names] using congrArg List.length hnames
  apply eq_of_toList_eq
  apply List.ext_getElem hlen
  intro i hi hi'
  have hname : (ofList entries).toList[i].1 = (ofList others).toList[i].1 := by
    simpa [names, hi, hi'] using congrArg (·[i]?) hnames
  have h₁ : latest? entries (ofList entries).toList[i].1 = some (ofList entries).toList[i].2 :=
    mem_toList_ofList.1 (List.getElem_mem hi)
  have h₂ : latest? others (ofList others).toList[i].1 = some (ofList others).toList[i].2 :=
    mem_toList_ofList.1 (List.getElem_mem hi')
  rw [hg, hname, h₂] at h₁
  exact Prod.ext hname (Option.some.inj h₁).symm

theorem latest?_toList (entries : List (Name × Value)) (name : Name) :
    latest? (ofList entries).toList name = latest? entries name := by
  rw [← get?_ofList, ofList_toList, get?_ofList]

theorem firstNames_toList (entries : List (Name × Value)) :
    firstNames (ofList entries).toList = firstNames entries := by
  rw [← names_ofList, ofList_toList, names_ofList]

/-! ## Merges -/

theorem Indexed.insertAll_indexed {r : Record} (h : r.Indexed) (entries : List (Name × Value)) :
    (r.insertAll entries).Indexed := by
  induction entries generalizing r with
  | nil => exact h
  | cons e rest ih => exact ih (insert_indexed h e.1 e.2)

/-- A look-up gives the value put last, or else what it gave before. -/
theorem Indexed.get?_insertAll {r : Record} (h : r.Indexed) (entries : List (Name × Value)) (name : Name) :
    (r.insertAll entries).get? name = (latest? entries name).or (r.get? name) := by
  induction entries using List.reverseRecOn with
  | nil => rfl
  | append_singleton entries e ih =>
    obtain ⟨n, value⟩ := e
    have hstep : r.insertAll (entries ++ [(n, value)]) = (r.insertAll entries).insert n value :=
      List.foldl_concat _ _ _ _
    rw [hstep, (h.insertAll_indexed entries).get?_insert, latest?_concat, ih]
    split_ifs
    · rfl
    · rfl

/-- Of entries without a name that stands twice, those with a new name make the record longer. -/
theorem Indexed.size_insertAll {r : Record} (h : r.Indexed) {entries : List (Name × Value)}
    (hn : (entries.map Prod.fst).Nodup) :
    (r.insertAll entries).size = r.size + entries.countP fun e => !r.contains e.1 := by
  induction entries generalizing r with
  | nil => rfl
  | cons e rest ih =>
    rw [List.map_cons, List.nodup_cons] at hn
    -- the names of the rest are others, so the first entry does not change which of them are new
    have hrest : (rest.countP fun f => !(r.insert e.1 e.2).contains f.1) = rest.countP fun f => !r.contains f.1 := by
      apply List.countP_congr
      intro f hf
      have hne : f.1 ≠ e.1 := fun hfe => hn.1 (hfe ▸ List.mem_map_of_mem hf)
      rw [contains, h.get?_insert, if_neg hne, contains]
    calc (r.insertAll (e :: rest)).size
        = (r.insert e.1 e.2).size + rest.countP fun f => !(r.insert e.1 e.2).contains f.1 :=
          ih (insert_indexed h e.1 e.2) hn.2
      _ = (r.insert e.1 e.2).size + rest.countP fun f => !r.contains f.1 := by rw [hrest]
      _ = r.size + (e :: rest).countP fun f => !r.contains f.1 := by
          rw [h.size_insert, List.countP_cons, contains]
          cases r.get? e.1 with
          | none =>
            simp only [if_true, Option.isSome_none, Bool.not_false]
            omega
          | some value => simp

/-- Of the names in both records the second one's value counts. -/
theorem Indexed.get?_merge {r s : Record} (hr : r.Indexed) (hs : s.Indexed) (name : Name) :
    (r.merge s).get? name = (s.get? name).or (r.get? name) := by
  have hlatest : latest? s.toList name = s.get? name := by
    calc latest? s.toList name
        = (ofList s.toList).get? name := (get?_ofList s.toList name).symm
      _ = (ofList s.toList).toList.lookup name := (ofList_indexed s.toList).get?_eq_lookup name
      _ = s.toList.lookup name := by rw [toList_ofList_of_nodup hs.distinct]
      _ = s.get? name := (hs.get?_eq_lookup name).symm
  rw [merge, hr.get?_insertAll, hlatest]

/-- **A merge replaces the values of the shared names**, and adds the other fields of the second record. -/
theorem Indexed.size_merge {r s : Record} (hr : r.Indexed) (hs : s.Indexed) :
    (r.merge s).size + r.shared s = r.size + s.size := by
  have hsplit := List.length_eq_countP_add_countP (fun e : Name × Value => r.contains e.1) (l := s.toList)
  have hlength : s.toList.length = s.size := Array.length_toList
  rw [merge, hr.size_insertAll hs.distinct, shared, ← hlength, hsplit]
  simp only [Bool.not_eq_true, Bool.decide_eq_false]
  omega

/-- **A history that goes on is a merge.** -/
theorem ofList_append (entries others : List (Name × Value)) :
    ofList (entries ++ others) = (ofList entries).merge (ofList others) := by
  calc ofList (entries ++ others)
      = ofList (entries ++ (ofList others).toList) := by
        apply ofList_eq_of_answers
        · rw [firstNames_append, firstNames_append, firstNames_toList]
        · intro name
          rw [latest?_append, latest?_append, latest?_toList]
    _ = (ofList entries).merge (ofList others) := List.foldl_append

end Record

end DeviceDump
