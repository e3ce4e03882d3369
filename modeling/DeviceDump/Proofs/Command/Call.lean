/-
Argument lists that ask for a dump on standard input to be read, and the requests that they make.

A call (`ParseCall`) gives settings before the command's name and, after it and in any order, settings, the switch for
confirmations and the operand `-`. Each is given at most once at its place, in either of its spellings.
- `takeCommand_append`, `takeProgram_append`: one step. What a part says is taken in, and what follows is taken next.
- `takeCommand_parts`, `takeProgram_parts`: a whole place, by induction on its parts; the invariant is that the places
  of the parts still to come are free.
- `of?_arguments`: the request of a call.
-/
import DeviceDump.Command.Arguments
import Mathlib.Tactic

namespace DeviceDump.Command

/-! ## Parts of an argument list -/

/-- a setting together with one of its values -/
inductive SettingValue where
  | format (f : DeviceDump.Format)
  | logFormat (f : Log.Format)
  | logLevel (l : Log.Level)
  deriving DecidableEq

namespace SettingValue

def setting : SettingValue → Setting
  | .format _ => .format
  | .logFormat _ => .logFormat
  | .logLevel _ => .logLevel

/-- the value as it is written -/
def text : SettingValue → Text
  | .format f => f.name
  | .logFormat f => f.name
  | .logLevel l => l.name

end SettingValue

/-- a setting that is given: the value is part of the argument (`--name=value`) or the next one (`--name value`) -/
structure Choice where
  value : SettingValue
  joined : Bool
  deriving DecidableEq

def Choice.words (c : Choice) : List Text :=
  if c.joined then [c.value.setting.option ++ '=' :: c.value.text] else [c.value.setting.option, c.value.text]

/-- what may stand after the command's name -/
inductive Part where
  | choice (c : Choice)
  /-- confirmations are to be printed: `-v` or `--verbose` -/
  | verbose (short : Bool)
  /-- the operand that stands for standard input -/
  | input
  deriving DecidableEq

/-- what can be given only once at a place -/
inductive Slot where
  | setting (s : Setting)
  | verbose
  | operand
  deriving DecidableEq

namespace Part

def words : Part → List Text
  | .choice c => c.words
  | .verbose short => if short then ["-v"] else ["--verbose"]
  | .input => ["-"]

def slot : Part → Slot
  | .choice c => .setting c.value.setting
  | .verbose _ => .verbose
  | .input => .operand

@[simp] def format? : Part → Option DeviceDump.Format
  | .choice ⟨.format f, _⟩ => some f
  | _ => none

@[simp] def logFormat? : Part → Option Log.Format
  | .choice ⟨.logFormat f, _⟩ => some f
  | _ => none

@[simp] def logLevel? : Part → Option Log.Level
  | .choice ⟨.logLevel l, _⟩ => some l
  | _ => none

@[simp] def isVerbose : Part → Bool
  | .verbose _ => true
  | _ => false

@[simp] def operand? : Part → Option Text
  | .input => some "-".toList
  | _ => none

end Part

/-! ## What a place is given -/

namespace Given

/-- a place that is given further parts; what it has stays -/
def plus (g : Given) (parts : List Part) : Given where
  format := g.format <|> parts.findSome? Part.format?
  logFormat := g.logFormat <|> parts.findSome? Part.logFormat?
  logLevel := g.logLevel <|> parts.findSome? Part.logLevel?
  verbose := g.verbose || parts.any Part.isVerbose
  extended := g.extended
  operand := g.operand <|> parts.findSome? Part.operand?

/-- nothing has been given in a slot yet -/
def Free (g : Given) : Slot → Prop
  | .setting .format => g.format = none
  | .setting .logFormat => g.logFormat = none
  | .setting .logLevel => g.logLevel = none
  | .verbose => g.verbose = false
  | .operand => g.operand = none

theorem plus_nil (g : Given) : g.plus [] = g := by
  simp [plus]

theorem plus_plus (g : Given) (first second : List Part) : (g.plus first).plus second = g.plus (first ++ second) := by
  simp [plus, List.findSome?_append, Option.or_assoc, Bool.or_assoc]

theorem plus_cons (g : Given) (p : Part) (rest : List Part) : g.plus (p :: rest) = (g.plus [p]).plus rest :=
  (plus_plus g [p] rest).symm

theorem plus_verbose (g : Given) (short : Bool) : g.plus [.verbose short] = { g with verbose := true } := by
  simp [plus]

theorem plus_input {g : Given} (h : g.operand = none) : g.plus [.input] = { g with operand := some "-".toList } := by
  simp [plus, h]

theorem empty_free (s : Slot) : ({} : Given).Free s := by
  rcases s with (_ | _ | _) | _ | _ <;> rfl

/-- A slot is free behind parts just if it was before and none of them gives anything for it. -/
theorem free_plus_iff {g : Given} {parts : List Part} {s : Slot} :
    (g.plus parts).Free s ↔ g.Free s ∧ (({} : Given).plus parts).Free s := by
  rcases s with (_ | _ | _) | _ | _ <;> simp [Free, plus]

/-- A part gives nothing for any slot but its own. -/
theorem free_of_slot_ne {p : Part} {s : Slot} (h : p.slot ≠ s) : (({} : Given).plus [p]).Free s := by
  -- a part is one of five and so is a slot; where the two belong together there is nothing to show
  rcases p with ⟨_ | _ | _, _⟩ | _ | _ <;> rcases s with (_ | _ | _) | _ | _
  all_goals first | rfl | exact absurd rfl h

/-- A part leaves every slot but its own as it was. -/
theorem Free.plus {g : Given} {s : Slot} (h : g.Free s) {p : Part} (hs : p.slot ≠ s) : (g.plus [p]).Free s :=
  free_plus_iff.2 ⟨h, free_of_slot_ne hs⟩

end Given

/-! ## One part -/

theorem Setting.ofName?_name (s : Setting) : Setting.ofName? s.name = some s := by cases s <;> rfl

theorem Word.of_option (s : Setting) : Word.of s.option = .long s.name none := by cases s <;> rfl

/-- The first sign of equality ends the name, whatever the value holds. -/
theorem Word.of_option_value (s : Setting) (value : Text) :
    Word.of (s.option ++ '=' :: value) = .long s.name (some value) := by cases s <;> rfl

theorem Word.of_text (v : SettingValue) : Word.of v.text = .plain v.text := by
  cases v with
  | format f => cases f <;> rfl
  | logFormat f => cases f <;> rfl
  | logLevel l => cases l <;> rfl

namespace Given

theorem once_none {α : Type} {value : Text} {read : Text → Option α} {a : α} (h : read value = some a)
    (setting : Setting) : once none setting value read = .ok (some a) := by
  simp [once, h]

/-- A setting whose slot is free takes its value. -/
theorem set_text {g : Given} {c : Choice} (h : g.Free (Part.choice c).slot) :
    g.set c.value.setting c.value.text = .ok (g.plus [.choice c]) := by
  obtain ⟨v, joined⟩ := c
  cases v with
  | format f =>
    have hf : g.format = none := h
    have hv : DeviceDump.Format.ofName? f.name = some f := by cases f <;> rfl
    simp [set, plus, SettingValue.setting, SettingValue.text, hf, once_none hv, Except.map]
  | logFormat f =>
    have hf : g.logFormat = none := h
    have hv : Log.Format.ofName? f.name = some f := by cases f <;> rfl
    simp [set, plus, SettingValue.setting, SettingValue.text, hf, once_none hv, Except.map]
  | logLevel l =>
    have hf : g.logLevel = none := h
    have hv : Log.Level.ofName? l.name = some l := by cases l <;> rfl
    simp [set, plus, SettingValue.setting, SettingValue.text, hf, once_none hv, Except.map]

theorem takeCommand_choice {g : Given} {c : Choice} (h : g.Free (Part.choice c).slot) (rest : List Text) :
    g.takeCommand .parse (c.words ++ rest) = (g.plus [.choice c]).takeCommand .parse rest := by
  obtain ⟨v, joined⟩ := c
  have hs := set_text h
  cases joined with
  | true =>
    rw [Choice.words, if_pos rfl, List.singleton_append, takeCommand, Word.of_option_value]
    simp only [Setting.ofName?_name, hs]
    rfl
  | false =>
    rw [Choice.words, if_neg (by simp), List.cons_append, List.singleton_append, takeCommand, Word.of_option]
    simp only [Setting.ofName?_name, Word.of_text, hs]
    rfl

theorem takeCommand_verbose {g : Given} (h : g.verbose = false) (short : Bool) (rest : List Text) :
    g.takeCommand .parse ((Part.verbose short).words ++ rest) =
      (g.plus [.verbose short]).takeCommand .parse rest := by
  have ht : g.turnOn .verbose = .ok { g with verbose := true } := by simp [turnOn, h]
  rw [plus_verbose]
  cases short with
  | true =>
    have ha : g.turnOnAll .parse "v".toList = .ok { g with verbose := true } := by
      show (g.turnOn .verbose).bind (turnOnAll · .parse []) = _
      rw [ht]
      rfl
    show (g.turnOnAll .parse "v".toList).bind (takeCommand · .parse rest) = _
    rw [ha]
    rfl
  | false =>
    show (g.turnOn .verbose).bind (takeCommand · .parse rest) = _
    rw [ht]
    rfl

theorem takeCommand_input {g : Given} (h : g.operand = none) (rest : List Text) :
    g.takeCommand .parse (Part.input.words ++ rest) = (g.plus [.input]).takeCommand .parse rest := by
  have ha : g.addOperand .parse "-".toList = .ok { g with operand := some "-".toList } := by
    simp [addOperand, h]
  rw [plus_input h]
  show (g.addOperand .parse "-".toList).bind (takeCommand · .parse rest) = _
  rw [ha]
  rfl

/-- A part whose slot is free is taken in. -/
theorem takeCommand_append {g : Given} {p : Part} (h : g.Free p.slot) (rest : List Text) :
    g.takeCommand .parse (p.words ++ rest) = (g.plus [p]).takeCommand .parse rest := by
  cases p with
  | choice c => exact takeCommand_choice h rest
  | verbose short => exact takeCommand_verbose h short rest
  | input => exact takeCommand_input h rest

/-! ## The command's place -/

/-- What a part takes up is its own slot, so the parts after it find theirs as before. -/
theorem free_of_cons {g : Given} {p : Part} {rest : List Part} (hn : ((p :: rest).map Part.slot).Nodup)
    (hf : ∀ q ∈ p :: rest, g.Free q.slot) : ∀ q ∈ rest, (g.plus [p]).Free q.slot := by
  intro q hq
  refine (hf q (List.mem_cons_of_mem p hq)).plus fun hs => ?_
  rw [List.map_cons, List.nodup_cons] at hn
  exact hn.1 (hs ▸ List.mem_map_of_mem hq)

theorem takeCommand_parts {g : Given} {parts : List Part} (hn : (parts.map Part.slot).Nodup)
    (hf : ∀ p ∈ parts, g.Free p.slot) : g.takeCommand .parse (parts.flatMap Part.words) = .ok (g.plus parts) := by
  induction parts generalizing g with
  | nil => rw [plus_nil]; rfl
  | cons p rest ih =>
    have hr : (rest.map Part.slot).Nodup := (List.nodup_cons.1 hn).2
    rw [List.flatMap_cons, takeCommand_append (hf p List.mem_cons_self), ih hr (free_of_cons hn hf), ← plus_cons]

end Given

/-! ## The program's place -/

/-- The name of the command ends the program's place; the value left for later is settled after the command's own
arguments. -/
theorem takeProgram_command (g : Given) (waiting : Option (Setting × Text)) (rest : List Text) :
    takeProgram g waiting ("parse".toList :: rest) =
      (({} : Given).takeCommand .parse rest).bind fun inner =>
        (g.settle waiting).bind fun outer => .ok (.parse, outer, inner) := rfl

/-- A choice at the program's place is taken in at once, or left for later: then settling takes it in. -/
theorem takeProgram_append {g g₁ : Given} {waiting : Option (Setting × Text)} (hw : g.settle waiting = .ok g₁)
    {c : Choice} (h : g₁.Free (Part.choice c).slot) (rest : List Text) :
    ∃ g' waiting', g'.settle waiting' = .ok (g₁.plus [.choice c]) ∧
      takeProgram g waiting (c.words ++ rest) = takeProgram g' waiting' rest := by
  obtain ⟨v, joined⟩ := c
  have hs := Given.set_text h
  cases joined with
  | true =>
    refine ⟨g₁.plus [.choice ⟨v, true⟩], none, rfl, ?_⟩
    rw [Choice.words, if_pos rfl, List.singleton_append, takeProgram, Word.of_option_value]
    simp only [hw, Setting.ofName?_name, bind, Except.bind, hs]
  | false =>
    refine ⟨g₁, some (v.setting, v.text), hs, ?_⟩
    rw [Choice.words, if_neg (by simp), List.cons_append, List.singleton_append, takeProgram, Word.of_option]
    simp only [hw, Setting.ofName?_name, Word.of_text, bind, Except.bind]

theorem takeProgram_parts {g g₁ inner : Given} {waiting : Option (Setting × Text)} (hw : g.settle waiting = .ok g₁)
    {choices : List Choice} (hn : ((choices.map Part.choice).map Part.slot).Nodup)
    (hf : ∀ p ∈ choices.map Part.choice, g₁.Free p.slot) {rest : List Text}
    (hr : ({} : Given).takeCommand .parse rest = .ok inner) :
    takeProgram g waiting (choices.flatMap Choice.words ++ "parse".toList :: rest) =
      .ok (.parse, g₁.plus (choices.map Part.choice), inner) := by
  induction choices generalizing g g₁ waiting with
  | nil =>
    rw [List.flatMap_nil, List.nil_append, takeProgram_command, hr, List.map_nil, Given.plus_nil]
    show (g.settle waiting).bind _ = _
    rw [hw]
    rfl
  | cons c others ih =>
    obtain ⟨g', waiting', hw', hstep⟩ := takeProgram_append hw (hf (.choice c) List.mem_cons_self)
      (others.flatMap Choice.words ++ "parse".toList :: rest)
    have hrest : ((others.map Part.choice).map Part.slot).Nodup := (List.nodup_cons.1 hn).2
    rw [List.flatMap_cons, List.append_assoc, hstep, ih hw' hrest (Given.free_of_cons hn hf), List.map_cons,
      ← Given.plus_cons]

/-! ## Whole calls -/

/-- an argument list that asks for the dump on standard input to be read -/
structure ParseCall where
  /-- the settings given before the command's name -/
  outer : List Choice
  /-- what is given after it -/
  inner : List Part
  outer_once : (outer.map (·.value.setting)).Nodup
  inner_once : (inner.map Part.slot).Nodup
  input_mem : Part.input ∈ inner

namespace ParseCall

def arguments (call : ParseCall) : List Text :=
  call.outer.flatMap Choice.words ++ "parse".toList :: call.inner.flatMap Part.words

/-- are confirmations asked for? -/
def verbose (call : ParseCall) : Bool := call.inner.any Part.isVerbose

/-- the form of output that is asked for; what is given after the command's name counts before what is given before -/
def format? (call : ParseCall) : Option DeviceDump.Format :=
  call.inner.findSome? Part.format? <|> (call.outer.map Part.choice).findSome? Part.format?

def logFormat? (call : ParseCall) : Option Log.Format :=
  call.inner.findSome? Part.logFormat? <|> (call.outer.map Part.choice).findSome? Part.logFormat?

def logLevel? (call : ParseCall) : Option Log.Level :=
  call.inner.findSome? Part.logLevel? <|> (call.outer.map Part.choice).findSome? Part.logLevel?

theorem findSome?_operand {parts : List Part} (h : Part.input ∈ parts) :
    parts.findSome? Part.operand? = some "-".toList := by
  induction parts with
  | nil => cases h
  | cons p rest ih =>
    cases p with
    | input => rfl
    | choice c =>
      rcases List.mem_cons.1 h with h | h
      · cases h
      · exact ih h
    | verbose short =>
      rcases List.mem_cons.1 h with h | h
      · cases h
      · exact ih h

/-- **A call makes one request**: that the dump on standard input be read, in the form and with the confirmations and
the log that the call names, or else with the usual ones. -/
theorem of?_arguments (call : ParseCall) :
    Request.of? {} call.arguments = .ok
      { action := .parse .standardInput call.verbose
        format := call.format?
        logFormat := call.logFormat?.getD .text
        logLevel := call.logLevel?.getD .warn } := by
  have hin : ({} : Given).takeCommand .parse (call.inner.flatMap Part.words) = .ok (({} : Given).plus call.inner) :=
    Given.takeCommand_parts call.inner_once fun p _ => Given.empty_free p.slot
  have hnodup : ((call.outer.map Part.choice).map Part.slot).Nodup := by
    have := call.outer_once.map (f := Slot.setting) fun a b h => Slot.setting.inj h
    simpa [List.map_map, Function.comp_def, Part.slot] using this
  have htake : takeProgram {} none call.arguments =
      .ok (.parse, ({} : Given).plus (call.outer.map Part.choice), ({} : Given).plus call.inner) :=
    takeProgram_parts rfl hnodup (fun p _ => Given.empty_free p.slot) hin
  have hoperand : (({} : Given).plus call.inner).operand = some "-".toList := findSome?_operand call.input_mem
  have haction : actionOf {} .parse (({} : Given).plus call.inner) = .ok (.parse .standardInput call.verbose) := by
    unfold actionOf
    rw [hoperand]
    rfl
  have hlevel : environmentLevel {} (({} : Given).plus (call.outer.map Part.choice)) (({} : Given).plus call.inner) =
      .ok none := by
    unfold environmentLevel
    split_ifs <;> rfl
  -- the environment gives no level
  have hnone : ∀ o : Option Log.Level, (o <|> none) = o := fun o => by cases o <;> rfl
  unfold Request.of?
  rw [htake]
  simp only [bind, Except.bind, haction, hlevel, hnone]
  rfl

example : (⟨[⟨.format .json, true⟩], [.input, .verbose true, .choice ⟨.logLevel .debug, false⟩], by decide, by decide,
    by decide⟩ : ParseCall).arguments =
      ["--format=json", "parse", "-", "-v", "--log-level", "debug"].map String.toList := by decide

end ParseCall

end DeviceDump.Command
