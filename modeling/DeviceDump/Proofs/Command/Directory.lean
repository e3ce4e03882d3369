/-
What reading a path in a directory gives.

A path leads to a place, which is named by its components where these only go down (`place_of_down`), and passes every
place above that one (`mem_passed_of_suffix`). At a place stands the entry that was put there last (`at?_of_last`), and
where no file was put, a directory if it is the top or on the way to an entry, and nothing otherwise (`at?_of_noFile`).
- `follow_append`: components that only go down lead through directories to the place that they name.
- `read_of_last`: what is read at a path is the entry that was put there last, whatever was put elsewhere.
- `read_below_file`: a file is no place to go on from.
- `read_of_absent`: where nothing was put at a path or below it, nothing is found.
-/
import DeviceDump.Command.Directory
import DeviceDump.Proofs.General

namespace DeviceDump.Command.Directory

/-! ## Places -/

/-- the place that a path leads to from the top, by its names, the last one first -/
def place (path : Text) : List Text := (passed path).headD []

/-- one more place behind those that were passed, a component on from the last of them -/
def onward (places : List (List Text)) (part : Text) : List (List Text) :=
  (if part = parent then (places.headD []).tail else part :: places.headD []) :: places

theorem mem_foldl_onward_of_suffix (parts : List Text) {above : List Text} (hne : above ≠ [])
    (hs : above <:+ (parts.foldl onward []).headD []) : above ∈ parts.foldl onward [] := by
  induction parts using List.reverseRecOn with
  | nil => exact absurd (List.suffix_nil.1 hs) hne
  | append_singleton parts part ih =>
    rw [List.foldl_concat] at hs ⊢
    by_cases hpart : part = parent
    · -- the place above was passed on the way down
      rw [onward, if_pos hpart] at hs
      exact List.mem_cons_of_mem _ (ih (hs.trans (List.tail_suffix _)))
    · rw [onward, if_neg hpart] at hs ⊢
      rcases List.suffix_cons_iff.1 hs with rfl | hs
      · exact List.mem_cons_self
      · exact List.mem_cons_of_mem _ (ih hs)

theorem headD_foldl_onward {parts : List Text} (h : ∀ part ∈ parts, part ≠ parent) :
    (parts.foldl onward []).headD [] = parts.reverse := by
  induction parts using List.reverseRecOn with
  | nil => rfl
  | append_singleton parts part ih =>
    have hparts := ih fun p hp => h p (List.mem_append_left _ hp)
    have hlast : part ≠ parent := h part (by simp)
    rw [List.foldl_concat, onward, if_neg hlast, hparts, List.reverse_concat]
    rfl

variable {d : Directory} {path name : Text} {above : List Text}

theorem mem_passed_of_suffix (hne : above ≠ []) (hs : above <:+ place path) : above ∈ passed path :=
  mem_foldl_onward_of_suffix (components path) hne hs

theorem place_mem_passed (hne : place name ≠ []) : place name ∈ passed name :=
  mem_passed_of_suffix hne (List.suffix_refl _)

theorem place_of_down (h : ∀ part ∈ components path, part ≠ parent) : place path = (components path).reverse :=
  headD_foldl_onward h

/-! ## What stands at a place -/

theorem at?_eq (d : Directory) (above : List Text) :
    d.at? above = match d.entries.reverse.find? fun e => place e.1 == above with
      | some e => some e.2
      | none =>
        if above.isEmpty || d.entries.any fun e => (passed e.1).contains above then some .directory else none := rfl

/-- **The entry put last at a place stands there.** -/
theorem at?_of_last {before after : List (Text × Entry)} {entry : Entry}
    (h : d.entries = before ++ (name, entry) :: after) (hlast : ∀ e ∈ after, place e.1 ≠ place name) :
    d.at? (place name) = some entry := by
  have hnone : after.reverse.find? (fun e => place e.1 == place name) = none := by
    rw [List.find?_eq_none]
    intro e he
    simpa using hlast e (List.mem_reverse.1 he)
  have hfind : d.entries.reverse.find? (fun e => place e.1 == place name) = some (name, entry) := by
    rw [h, List.reverse_append, List.reverse_cons, List.find?_append, List.find?_append, hnone]
    simp
  rw [at?_eq, hfind]

/-- no file was put at a place -/
def NoFile (d : Directory) (above : List Text) : Prop := ∀ e ∈ d.entries, place e.1 = above → e.2 = .directory

theorem at?_of_noFile (h : d.NoFile above) :
    d.at? above = if above = [] ∨ ∃ e ∈ d.entries, above ∈ passed e.1 then some .directory else none := by
  have hpassed : (above.isEmpty || d.entries.any fun e => (passed e.1).contains above) = true ↔
      above = [] ∨ ∃ e ∈ d.entries, above ∈ passed e.1 := by
    simp
  rw [at?_eq]
  cases hf : d.entries.reverse.find? fun e => place e.1 == above with
  | some e =>
    have he : e ∈ d.entries := List.mem_reverse.1 (List.mem_of_find?_eq_some hf)
    have hplace : place e.1 = above := by simpa using List.find?_some hf
    have hway : above = [] ∨ ∃ e ∈ d.entries, above ∈ passed e.1 := by
      by_cases hne : above = []
      · exact .inl hne
      · exact .inr ⟨e, he, hplace ▸ place_mem_passed (hplace ▸ hne)⟩
    rw [if_pos hway]
    exact congrArg some (h e he hplace)
  | none => simp only [hpassed]

/-- the way to a place is open: no file was put at a place above it -/
def OpenTo (d : Directory) (target : List Text) : Prop :=
  ∀ above, above <:+ target → above ≠ target → d.NoFile above

/-! ## Following components -/

/-- components that only go down, none of them too long for a name -/
def Down (parts : List Text) : Prop := ∀ part ∈ parts, part ≠ parent ∧ part.utf8.length ≤ 255

variable {start parts rest : List Text} {part : Text}

theorem Down.tail (h : Down (part :: parts)) : Down parts := fun p hp => h p (List.mem_cons_of_mem _ hp)

theorem follow_cons (hpart : part ≠ parent ∧ part.utf8.length ≤ 255) (h : d.at? start = some .directory) :
    d.follow (some start) (part :: rest) = d.follow (some (part :: start)) rest := by
  simp only [follow, Option.elim, h, if_neg hpart.1, if_neg (Nat.not_lt.2 hpart.2)]

/-- **Components that only go down lead through directories to the place that they name.** -/
theorem follow_append (hdown : Down parts)
    (h : ∀ k < parts.length, d.at? ((parts.take k).reverse ++ start) = some .directory) :
    d.follow (some start) (parts ++ rest) = d.follow (some (parts.reverse ++ start)) rest := by
  induction parts generalizing start with
  | nil => rfl
  | cons part parts ih =>
    have hstart : d.at? start = some .directory := h 0 (Nat.succ_pos _)
    have hnext : ∀ k < parts.length, d.at? ((parts.take k).reverse ++ part :: start) = some .directory := by
      intro k hk
      simpa using h (k + 1) (Nat.succ_lt_succ hk)
    rw [List.cons_append, follow_cons (hdown part List.mem_cons_self) hstart, ih hdown.tail hnext, List.reverse_cons,
      List.append_assoc]
    rfl

theorem follow_of_absent (hdown : Down parts) (habsent : d.at? (parts.reverse ++ start) = none)
    (h : ∀ k < parts.length, d.NoFile ((parts.take k).reverse ++ start)) :
    d.follow (some start) parts = .error .notFound := by
  induction parts generalizing start with
  | nil => simp only [follow, Option.elim, show d.at? start = none from habsent]
  | cons part parts ih =>
    have hstart : d.NoFile start := h 0 (Nat.succ_pos _)
    have hnext : ∀ k < parts.length, d.NoFile ((parts.take k).reverse ++ part :: start) := by
      intro k hk
      simpa using h (k + 1) (Nat.succ_lt_succ hk)
    have hat := at?_of_noFile hstart
    split at hat
    · rw [follow_cons (hdown part List.mem_cons_self) hat]
      exact ih hdown.tail (by simpa using habsent) hnext
    · simp only [follow, Option.elim, hat]

/-! ## Reading -/

/-- a path that may be followed from the top: not too long, not absolute, and only going down -/
structure Downward (path : Text) : Prop where
  short : path.utf8.length ≤ 4095
  relative : path.head? ≠ some '/'
  down : Down (components path)

theorem Downward.components_eq (hpath : Downward path) : components path = (place path).reverse := by
  rw [place_of_down fun part hp => (hpath.down part hp).1, List.reverse_reverse]

theorem Downward.read_eq (hpath : Downward path) :
    d.read path = match d.follow (some []) (components path) with
      | .error e => .error e
      | .ok .directory => .error .isDirectory
      | .ok (.file contents) => if wantsDirectory path then .error .notDirectory else .ok contents :=
  (if_neg (Nat.not_lt.2 hpath.short)).trans (if_neg hpath.relative)

/-- The components of an open way, but for the last of them, name places where no file was put. -/
theorem OpenTo.noFile {target : List Text} (hway : d.OpenTo target) {k : Nat} (hk : k < target.reverse.length) :
    d.NoFile (target.reverse.take k).reverse := by
  refine hway _ (List.reverse_take_reverse_suffix target k) fun h => ?_
  have hlength := congrArg List.length h
  rw [List.length_reverse, List.length_take] at hlength
  rw [List.length_reverse] at hk hlength
  omega

/-- An open way leads to its place, if something was put there. -/
theorem OpenTo.follow_append (hway : d.OpenTo (place name)) {entry : Entry} (hmem : (name, entry) ∈ d.entries)
    (hdown : Down (place name).reverse) (rest : List Text) :
    d.follow (some []) ((place name).reverse ++ rest) = d.follow (some (place name)) rest := by
  have hdirectory : ∀ k < (place name).reverse.length,
      d.at? (((place name).reverse.take k).reverse ++ []) = some .directory := by
    intro k hk
    have hsuffix := List.reverse_take_reverse_suffix (place name) k
    rw [List.append_nil, at?_of_noFile (hway.noFile hk), if_pos]
    by_cases htop : ((place name).reverse.take k).reverse = []
    · exact .inl htop
    · exact .inr ⟨_, hmem, mem_passed_of_suffix htop hsuffix⟩
  rw [Directory.follow_append hdown hdirectory, List.reverse_reverse, List.append_nil]

/-- **What is read at a path is the entry that was put there last**, under whatever name of the place; what was put
elsewhere does not matter. -/
theorem read_of_last (hpath : Downward path) {before after : List (Text × Entry)} {entry : Entry}
    (h : d.entries = before ++ (name, entry) :: after) (hname : place name = place path)
    (hlast : ∀ e ∈ after, place e.1 ≠ place path) (hway : d.OpenTo (place path)) :
    d.read path = match entry with
      | .directory => .error .isDirectory
      | .file contents => if wantsDirectory path then .error .notDirectory else .ok contents := by
  rw [← hname] at hlast hway
  have hcomponents : components path = (place name).reverse := by rw [hname, hpath.components_eq]
  have hmem : (name, entry) ∈ d.entries := h ▸ List.mem_append_right _ List.mem_cons_self
  have hfollow : d.follow (some []) (components path) = .ok entry := by
    rw [hcomponents, ← List.append_nil (place name).reverse, hway.follow_append hmem (hcomponents ▸ hpath.down)]
    simp only [follow, Option.elim, at?_of_last h hlast]
  rw [hpath.read_eq, hfollow]
  cases entry <;> rfl

example :
    (Directory.mk [("a/b".toList, .file ⟨#[1]⟩), ("./a//b".toList, .file ⟨#[2]⟩), ("c".toList, .directory)]).read
      "a/b".toList = .ok ⟨#[2]⟩ := by rfl

/-- A file is no place to go on from, whatever follows it. -/
theorem read_below_file (hpath : Downward path) {before after : List (Text × Entry)} {contents : ByteArray}
    (h : d.entries = before ++ (name, .file contents) :: after) (hname : place name <:+ place path)
    (hne : place name ≠ place path) (hlast : ∀ e ∈ after, place e.1 ≠ place name) (hway : d.OpenTo (place name)) :
    d.read path = .error .notDirectory := by
  obtain ⟨below, hbelow⟩ := hname
  obtain ⟨part, rest, hrest⟩ : ∃ part rest, below.reverse = part :: rest := by
    refine List.exists_cons_of_ne_nil fun hnil => hne ?_
    rw [← hbelow, List.reverse_eq_nil_iff.1 hnil, List.nil_append]
  have hcomponents : components path = (place name).reverse ++ part :: rest := by
    rw [hpath.components_eq, ← hbelow, List.reverse_append, hrest]
  have hdown : Down (place name).reverse := fun p hp =>
    hpath.down p (hcomponents ▸ List.mem_append_left _ hp)
  have hmem : (name, Entry.file contents) ∈ d.entries := h ▸ List.mem_append_right _ List.mem_cons_self
  have hfollow : d.follow (some []) (components path) = .error .notDirectory := by
    rw [hcomponents, hway.follow_append hmem hdown]
    simp only [follow, Option.elim, at?_of_last h hlast]
  rw [hpath.read_eq, hfollow]

/-- **Where nothing was put at a path or below it, nothing is found.** -/
theorem read_of_absent (hpath : Downward path) (htop : place path ≠ []) (h : ∀ e ∈ d.entries, place path ∉ passed e.1)
    (hway : d.OpenTo (place path)) : d.read path = .error .notFound := by
  have hfile : d.NoFile (place path) := by
    intro e he hplace
    exact absurd (hplace ▸ place_mem_passed (hplace ▸ htop)) (h e he)
  have hnone : d.at? (place path) = none := by
    rw [at?_of_noFile hfile, if_neg]
    rintro (hnil | ⟨e, he, hpassed⟩)
    · exact htop hnil
    · exact h e he hpassed
  have hfollow : d.follow (some []) (components path) = .error .notFound := by
    refine follow_of_absent hpath.down ?_ ?_
    · rw [hpath.components_eq, List.reverse_reverse, List.append_nil, hnone]
    · intro k hk
      rw [hpath.components_eq] at hk ⊢
      rw [List.append_nil]
      exact hway.noFile hk
  rw [hpath.read_eq, hfollow]

end DeviceDump.Command.Directory
