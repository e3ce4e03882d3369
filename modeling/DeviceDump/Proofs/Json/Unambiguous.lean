/-
Compact documents can be told apart by their text. The parts of a document are written one after the other, and nothing
says how long each of them is; so for every part it has to be shown that the text itself tells where the part ends.
- A string ends at the first quotation mark that is not escaped, and its characters can be read off their escapes
  (`unescaped?_escaped`, `quoted_append_inj`).
- An integer ends where no digit follows, so something else must follow it (`Ends`, `ofInt_append_inj`).
- An array or an object ends at its closing bracket, since none of its parts starts with one, and a comma stands before
  each further part (`enclosed_append_inj`).
- `determined_write`: so a document is told from what follows it, by induction on the document. The first character
  says which kind of document it is.
- `write_injective`: no two documents have the same text.
- `oneLine_write`: that text takes one line, whatever the strings hold.
-/
import DeviceDump.Hex.Digit
import DeviceDump.Json
import DeviceDump.Proofs.Wording

namespace DeviceDump.Json

/-! ## Strings -/

/-- the character that a string goes on with, read off its escape, and what follows; none at the closing mark -/
def unescaped? : Text → Option (Char × Text)
  | '\\' :: 'u' :: '0' :: '0' :: high :: low :: rest =>
    match Hex.digit? high, Hex.digit? low with
    | some h, some l => some (Char.ofNat (16 * h + l), rest)
    | _, _ => none
  | '\\' :: '"' :: rest => some ('"', rest)
  | '\\' :: '\\' :: rest => some ('\\', rest)
  | '\\' :: 'b' :: rest => some ('\x08', rest)
  | '\\' :: 'f' :: rest => some ('\x0c', rest)
  | '\\' :: 'n' :: rest => some ('\n', rest)
  | '\\' :: 'r' :: rest => some ('\r', rest)
  | '\\' :: 't' :: rest => some ('\t', rest)
  | '"' :: _ => none
  | c :: rest => some (c, rest)
  | [] => none

/-- A character is read off its escape. -/
theorem unescaped?_escaped (c : Char) (rest : Text) : unescaped? (escaped c ++ rest) = some (c, rest) := by
  unfold escaped
  split
  · rfl
  · rfl
  · rfl
  · rfl
  · rfl
  · rfl
  · rfl
  · split_ifs with hlt
    · have hhigh := Hex.digit?_digitChar (show c.toNat / 16 < 16 by omega)
      have hlow := Hex.digit?_digitChar (show c.toNat % 16 < 16 by omega)
      have hc : 16 * (c.toNat / 16) + c.toNat % 16 = c.toNat := Nat.div_add_mod c.toNat 16
      simp [unescaped?, hhigh, hlow, hc]
    · unfold unescaped?
      split <;> simp_all

theorem quoted_append_inj {s t x y : Text} (h : quoted s ++ x = quoted t ++ y) : s = t ∧ x = y := by
  -- without the opening marks
  have hs : s.flatMap escaped ++ '"' :: x = t.flatMap escaped ++ '"' :: y := by simpa [quoted] using h
  clear h
  induction s generalizing t with
  | nil =>
    cases t with
    | nil => exact ⟨rfl, (List.cons.inj hs).2⟩
    | cons d t =>
      rw [List.flatMap_cons, List.append_assoc] at hs
      have := congrArg unescaped? hs
      rw [unescaped?_escaped] at this
      cases this
  | cons c s ih =>
    rw [List.flatMap_cons, List.append_assoc] at hs
    have hc := congrArg unescaped? hs
    rw [unescaped?_escaped] at hc
    cases t with
    | nil => cases hc
    | cons d t =>
      rw [List.flatMap_cons, List.append_assoc, unescaped?_escaped, Option.some.injEq, Prod.mk.injEq] at hc
      obtain ⟨rfl, hrest⟩ := hc
      obtain ⟨rfl, hx⟩ := ih hrest
      exact ⟨rfl, hx⟩

/-! ## Integers -/

/-- what may follow a part of a document: nothing more, the next part, or a closing bracket -/
def Ends (rest : Text) : Prop := ∀ c ∈ rest.head?, c = ',' ∨ c = ']' ∨ c = '\x7d'

/-- a character that an integer can be written with -/
def isNumeric (c : Char) : Bool := c == '-' || c.isDigit

theorem isNumeric_of_mem_ofInt {n : Int} {c : Char} (h : c ∈ Text.Decimal.ofInt n) : isNumeric c = true := by
  rcases eq_minus_or_isDigit_of_mem_ofInt h with rfl | hd
  · rfl
  · rw [isNumeric, hd, Bool.or_true]

/-- An integer goes on as long as it can. -/
theorem takeWhile_ofInt_append (n : Int) {x : Text} (hx : Ends x) :
    (Text.Decimal.ofInt n ++ x).takeWhile isNumeric = Text.Decimal.ofInt n := by
  have hrest : x.takeWhile isNumeric = [] := by
    cases x with
    | nil => rfl
    | cons c rest =>
      have hc : isNumeric c = false := by
        rcases hx c rfl with rfl | rfl | rfl
        · decide
        · decide
        · decide
      rw [List.takeWhile_cons_of_neg (by simp [hc])]
  rw [List.takeWhile_append_of_pos fun c hc => isNumeric_of_mem_ofInt hc, hrest, List.append_nil]

theorem ofInt_append_inj {m n : Int} {x y : Text} (hx : Ends x) (hy : Ends y)
    (h : Text.Decimal.ofInt m ++ x = Text.Decimal.ofInt n ++ y) : m = n ∧ x = y := by
  have hw : Text.Decimal.ofInt m = Text.Decimal.ofInt n := by
    rw [← takeWhile_ofInt_append m hx, h, takeWhile_ofInt_append n hy]
  have hn : some m = some n := by rw [← Text.Decimal.integer?_ofInt, hw, Text.Decimal.integer?_ofInt]
  refine ⟨Option.some.inj hn, ?_⟩
  rw [hw] at h
  exact List.append_cancel_left h

/-! ## Parts between brackets -/

section Parts

variable {α : Type} {w : α → Text} {opening closing : Char} {x y : Text}

/-- the text of a part tells where it ends, whatever may follow -/
def Determined (w : α → Text) (a : α) : Prop :=
  ∀ (b : α) (x y : Text), Ends x → Ends y → w a ++ x = w b ++ y → a = b ∧ x = y

/-- what follows a part: the further parts, each after a comma, and then the rest -/
def further (parts : List Text) (rest : Text) : Text := parts.flatMap (',' :: ·) ++ rest

theorem intercalate_cons_append (part : Text) (parts : List Text) (rest : Text) :
    [','].intercalate (part :: parts) ++ rest = part ++ further parts rest := by
  induction parts generalizing part with
  | nil => simp [further]
  | cons next others ih =>
    rw [List.intercalate_cons_cons, List.append_assoc, List.append_assoc, ih]
    simp [further]

theorem ends_further (hc : Ends [closing]) (parts : List Text) (x : Text) : Ends (further parts (closing :: x)) := by
  cases parts with
  | nil => exact hc
  | cons part others =>
    intro c hh
    exact Or.inl (Option.some.inj hh).symm

/-- Parts that tell where they end are told from the bracket after them, and from each other. -/
theorem further_inj {as bs : List α} (hd : ∀ a ∈ as, Determined w a) (hc : Ends [closing]) (hne : closing ≠ ',')
    (h : further (as.map w) (closing :: x) = further (bs.map w) (closing :: y)) : as = bs ∧ x = y := by
  induction as generalizing bs with
  | nil =>
    cases bs with
    | nil => exact ⟨rfl, (List.cons.inj h).2⟩
    | cons b bs => exact absurd (List.cons.inj h).1 hne
  | cons a as ih =>
    cases bs with
    | nil => exact absurd (List.cons.inj h).1.symm hne
    | cons b bs =>
      have hab : w a ++ further (as.map w) (closing :: x) = w b ++ further (bs.map w) (closing :: y) := by
        simpa [further] using h
      obtain ⟨rfl, hrest⟩ := hd a List.mem_cons_self b _ _ (ends_further hc _ x) (ends_further hc _ y) hab
      obtain ⟨rfl, hx⟩ := ih (fun a ha => hd a (List.mem_cons_of_mem _ ha)) hrest
      exact ⟨rfl, hx⟩

theorem enclosed_cons_append (part : Text) (parts : List Text) (rest : Text) :
    enclosed opening closing (part :: parts) ++ rest = opening :: (part ++ further parts (closing :: rest)) := by
  rw [enclosed, List.cons_append, List.append_assoc, List.singleton_append, intercalate_cons_append]

/-- No part starts with the closing bracket, so the bracket says that there are no more parts. -/
theorem enclosed_append_inj {as bs : List α} (hd : ∀ a ∈ as, Determined w a) (hc : Ends [closing]) (hne : closing ≠ ',')
    (hw : ∀ a, ∃ c rest, w a = c :: rest ∧ c ≠ closing)
    (h : enclosed opening closing (as.map w) ++ x = enclosed opening closing (bs.map w) ++ y) : as = bs ∧ x = y := by
  cases as with
  | nil =>
    cases bs with
    | nil => exact ⟨rfl, by simpa [enclosed] using h⟩
    | cons b bs =>
      obtain ⟨c, rest, hb, hcb⟩ := hw b
      rw [List.map_cons, enclosed_cons_append, hb] at h
      exact absurd (List.cons.inj (List.cons.inj h).2).1.symm hcb
  | cons a as =>
    cases bs with
    | nil =>
      obtain ⟨c, rest, ha, hca⟩ := hw a
      rw [List.map_cons, enclosed_cons_append, ha] at h
      exact absurd (List.cons.inj (List.cons.inj h).2).1 hca
    | cons b bs =>
      rw [List.map_cons, List.map_cons, enclosed_cons_append, enclosed_cons_append] at h
      exact further_inj hd hc hne (by simpa [further] using (List.cons.inj h).2)

end Parts

/-! ## Documents -/

/-- Induction on a document goes by way of the items and the members that it holds. -/
theorem induct {P : Json → Prop} (text : ∀ t, P (.text t)) (integer : ∀ n, P (.integer n))
    (array : ∀ items, (∀ item ∈ items, P item) → P (.array items))
    (object : ∀ members, (∀ m ∈ members, P m.2) → P (.object members)) (j : Json) : P j :=
  @Json.rec P (fun items => ∀ item ∈ items, P item) (fun members => ∀ m ∈ members, P m.2) (fun m => P m.2)
    text integer array object nofun (fun _ _ hitem hrest => List.forall_mem_cons.2 ⟨hitem, hrest⟩)
    nofun (fun _ _ hm hrest => List.forall_mem_cons.2 ⟨hm, hrest⟩) (fun _ _ h => h) j

/-- the character that a document starts with, if all of its kind start with the same -/
def mark? : Json → Option Char
  | .text _ => some '"'
  | .integer _ => none
  | .array _ => some '['
  | .object _ => some '\x7b'

/-- The first character of a document says of which kind it is. -/
theorem write_eq_cons (j : Json) :
    ∃ c rest, j.write = c :: rest ∧ j.mark? = if isNumeric c then none else some c := by
  cases j with
  | text t => exact ⟨_, _, by rw [write, quoted], rfl⟩
  | array items => exact ⟨_, _, by rw [write, enclosed], rfl⟩
  | object members => exact ⟨_, _, by rw [write, enclosed], rfl⟩
  | integer n =>
    have hne : Text.Decimal.ofInt n ≠ [] := by
      cases n with
      | ofNat m => exact Nat.toDigits_ne_nil
      | negSucc m => exact List.cons_ne_nil _ _
    obtain ⟨c, rest, hc⟩ := List.exists_cons_of_ne_nil hne
    have hnumeric : isNumeric c = true := isNumeric_of_mem_ofInt (hc ▸ List.mem_cons_self)
    exact ⟨c, rest, by rw [write, hc], by rw [if_pos hnumeric]; rfl⟩

theorem mark?_eq {a b : Json} {x y : Text} (h : a.write ++ x = b.write ++ y) : a.mark? = b.mark? := by
  obtain ⟨c, rest, ha, hca⟩ := write_eq_cons a
  obtain ⟨d, others, hb, hdb⟩ := write_eq_cons b
  rw [ha, hb] at h
  rw [hca, hdb, (List.cons.inj h).1]

theorem not_closing_of_write {closing : Char} (hc : closing = ']' ∨ closing = '\x7d') (j : Json) :
    ∃ c rest, j.write = c :: rest ∧ c ≠ closing := by
  obtain ⟨c, rest, hw, hmark⟩ := write_eq_cons j
  refine ⟨c, rest, hw, ?_⟩
  rintro rfl
  rcases hc with rfl | rfl
  · cases j <;> cases hmark
  · cases j <;> cases hmark

/-- a member as it is written -/
def writeMember (m : Text × Json) : Text := quoted m.1 ++ ':' :: m.2.write

theorem determined_writeMember {m : Text × Json} (h : Determined write m.2) : Determined writeMember m := by
  intro other x y hx hy heq
  obtain ⟨name, value⟩ := m
  obtain ⟨name', value'⟩ := other
  rw [writeMember, writeMember, List.append_assoc, List.append_assoc] at heq
  obtain ⟨rfl, hvalue⟩ := quoted_append_inj heq
  obtain ⟨rfl, hrest⟩ := h value' x y hx hy (List.cons.inj hvalue).2
  exact ⟨rfl, hrest⟩

/-- **The text of a document tells where it ends**, whatever may follow. -/
theorem determined_write (j : Json) : Determined write j := by
  induction j using induct with
  | text t =>
    intro b x y hx hy h
    have hmark := mark?_eq h
    cases b with
    | text u =>
      obtain ⟨rfl, hrest⟩ := quoted_append_inj h
      exact ⟨rfl, hrest⟩
    | integer n => cases hmark
    | array items => cases hmark
    | object members => cases hmark
  | integer n =>
    intro b x y hx hy h
    have hmark := mark?_eq h
    cases b with
    | integer m =>
      obtain ⟨rfl, hrest⟩ := ofInt_append_inj hx hy h
      exact ⟨rfl, hrest⟩
    | text u => cases hmark
    | array items => cases hmark
    | object members => cases hmark
  | array items ih =>
    intro b x y hx hy h
    have hmark := mark?_eq h
    cases b with
    | array others =>
      rw [write, write, writeItems_eq, writeItems_eq] at h
      have hend : Ends [']'] := fun c hc => Or.inr (Or.inl (Option.some.inj hc).symm)
      obtain ⟨rfl, hrest⟩ := enclosed_append_inj ih hend (by decide) (not_closing_of_write (Or.inl rfl)) h
      exact ⟨rfl, hrest⟩
    | text u => cases hmark
    | integer m => cases hmark
    | object members => cases hmark
  | object members ih =>
    intro b x y hx hy h
    have hmark := mark?_eq h
    cases b with
    | object others =>
      rw [write, write, writeMembers_eq, writeMembers_eq] at h
      have hend : Ends ['\x7d'] := fun c hc => Or.inr (Or.inr (Option.some.inj hc).symm)
      have hstart : ∀ m, ∃ c rest, writeMember m = c :: rest ∧ c ≠ '\x7d' := fun m => ⟨_, _, rfl, by decide⟩
      have hdetermined := fun m hm => determined_writeMember (ih m hm)
      obtain ⟨rfl, hrest⟩ := enclosed_append_inj hdetermined hend (by decide) hstart h
      exact ⟨rfl, hrest⟩
    | text u => cases hmark
    | integer m => cases hmark
    | array items => cases hmark

/-- **No two documents have the same text.** -/
theorem write_injective : Function.Injective write := by
  intro a b h
  exact (determined_write a b [] [] nofun nofun (congrArg (· ++ []) h)).1

/-! ## Lines -/

theorem oneLine_escaped (c : Char) : Text.OneLine (escaped c) := by
  unfold escaped
  split
  · decide
  · decide
  · decide
  · decide
  · decide
  · decide
  · decide
  · rename_i hn _ _
    split_ifs with hlt
    · have hdigit : ∀ d < 16, Nat.digitChar d ≠ '\n' := by decide
      have hhigh := hdigit (c.toNat / 16) (by omega)
      have hlow := hdigit (c.toNat % 16) (by omega)
      simp [Text.OneLine, hhigh.symm, hlow.symm]
    · exact oneLine_singleton fun h => hn h

/-- A string takes one line, whatever it holds: a newline in it is escaped. -/
theorem oneLine_quoted (t : Text) : Text.OneLine (quoted t) := by
  intro hn
  simp only [quoted, List.mem_cons, List.mem_append, List.mem_flatMap, List.not_mem_nil, or_false] at hn
  rcases hn with h | ⟨c, -, h⟩ | h
  · cases h
  · exact oneLine_escaped c h
  · cases h

theorem oneLine_enclosed {opening closing : Char} (ho : opening ≠ '\n') (hc : closing ≠ '\n') {parts : List Text}
    (h : ∀ part ∈ parts, Text.OneLine part) : Text.OneLine (enclosed opening closing parts) := by
  have hparts : Text.OneLine ([','].intercalate parts) := Text.oneLine_intercalate (by decide) h
  exact Text.oneLine_append.2 ⟨oneLine_singleton ho, Text.oneLine_append.2 ⟨hparts, oneLine_singleton hc⟩⟩

/-- **A document takes one line.** -/
theorem oneLine_write (j : Json) : Text.OneLine j.write := by
  induction j using induct with
  | text t => exact oneLine_quoted t
  | integer n => exact oneLine_ofInt n
  | array items ih =>
    rw [write, writeItems_eq]
    refine oneLine_enclosed (by decide) (by decide) fun part hp => ?_
    obtain ⟨item, hi, rfl⟩ := List.mem_map.1 hp
    exact ih item hi
  | object members ih =>
    rw [write, writeMembers_eq]
    refine oneLine_enclosed (by decide) (by decide) fun part hp => ?_
    obtain ⟨m, hm, rfl⟩ := List.mem_map.1 hp
    have hcolon : Text.OneLine (':' :: m.2.write) :=
      Text.oneLine_append.2 ⟨(by decide : Text.OneLine [':']), ih m hm⟩
    exact Text.oneLine_append.2 ⟨oneLine_quoted m.1, hcolon⟩

end DeviceDump.Json
