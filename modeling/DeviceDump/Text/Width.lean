/-
How many columns of a terminal a text takes.

It is the sum of what its characters take by themselves, but for ligatures, emoji sequences and selectors. A selector
chooses the style of the character before it: as a picture it takes two columns, as text one, and a quotation mark takes
two in its wide form; a selector of a form that the character does not have is without effect. A carriage return before
a newline takes none.

What a character takes depends on what follows it, so a text is read from its end: `step` takes one more character in
front of what has been read.
-/
import DeviceDump.Text.Width.Character
import DeviceDump.Text.Width.Following

namespace DeviceDump.Text

/-! ## Reading -/

/-- a character that combines with nothing -/
def stepAlone (c : Char) : Int × Following := (charWidth c, { join := .ofChar c })

/-- a character behind which no selector is left to answer to -/
def stepJoin (c : Char) (f : Following) : Int × Following :=
  match f.join with
  | .ligature e =>
    match e.pass c with
    | some e => (0, { f with join := .ligature e })
    | none =>
      match e.extend c with
      | some (columns, some e) => (columns, { join := .ligature e })
      | some (columns, none) => (columns, {})
      | none => stepAlone c
  | .sequence s =>
    match s.extend c with
    | some (columns, s) => (columns, { join := .sequence s })
    | none => stepAlone c
  | _ => stepAlone c

/-- a picture that can also be text; ideographs in squares stay as wide as they are -/
def hasTextStyle (c : Char) : Bool := isEmoji c && hasStyles c && !isEnclosedIdeograph c

/-- the quotation marks with a wide form -/
def hasWideForm (c : Char) : Bool := inRanges [(0x2018, 0x2019), (0x201C, 0x201D)] c

/-- a character of which no style as a picture is asked for; it answers to a selector before it does to a ligature -/
def stepUnstyled (c : Char) (f : Following) : Int × Following :=
  if c.toNat ≤ 0xA0 then
    if c = '\n' then (1, { join := .newline })
    else if c = '\r' ∧ f.join = .newline then (0, {})
    else (1, {})
  else
    match Selector.ofChar? c with
    | some s => (0, f.select s)
    | none =>
      if f.has .text ∧ hasTextStyle c then (1, {})
      else if f.has .wide ∧ hasWideForm c then (2, {})
      else stepJoin c { f with selectors := [] }

/-- take one more character in front: the columns that it adds, and what then follows the next one -/
def step (c : Char) (f : Following) : Int × Following :=
  if f.has .emoji then
    if hasStyles c then
      (if f.join = .sequence .joined ∨ f.join = .sequence .joinedKeycap then 0 else 2, .picture)
    else stepUnstyled c f.dropEmoji
  else stepUnstyled c f

/-- the columns a text takes and what stands at its start -/
def measure (t : Text) : Int × Following :=
  t.foldr (fun c read => let (columns, following) := step c read.2; (read.1 + columns, following)) (0, {})

/-- the columns a text takes -/
def width (t : Text) : Nat := (measure t).1.toNat

/-! ## Text in which nothing combines -/

@[simp] theorem measure_nil : measure [] = (0, {}) := rfl

theorem measure_cons (c : Char) (t : Text) :
    measure (c :: t) = ((measure t).1 + (step c (measure t).2).1, (step c (measure t).2).2) := rfl

/-- A character up to U+00A0 that is no newline takes one column where nothing follows it. -/
theorem step_of_le {c : Char} (h : c.toNat ≤ 0xA0) (hn : c ≠ '\n') : step c {} = (1, {}) := by
  simp [step, stepUnstyled, Following.has, h, hn]

theorem measure_of_le {t : Text} (h : ∀ c ∈ t, c.toNat ≤ 0xA0 ∧ c ≠ '\n') :
    measure t = ((t.length : Int), {}) := by
  induction t with
  | nil => rfl
  | cons c t ih =>
    obtain ⟨hc, ht⟩ := List.forall_mem_cons.1 h
    rw [measure_cons, ih ht, step_of_le hc.1 hc.2]
    simp

/-- Such a text takes as many columns as it has characters. -/
theorem width_of_le {t : Text} (h : ∀ c ∈ t, c.toNat ≤ 0xA0 ∧ c ≠ '\n') : width t = t.length := by
  rw [width, measure_of_le h, Int.toNat_natCast]

end DeviceDump.Text
