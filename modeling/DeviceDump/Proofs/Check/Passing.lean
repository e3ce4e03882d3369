/-
What a record is known to hold once a check has found nothing wrong with it.

A check is meant to let a record pass only if its type, its version and its token length are the expected integers. It
looks for these fields as for any other that is required, whatever they hold, and compares what they hold only if that
is an integer. So a value of another kind under one of these names is neither missing nor wrong, and passes.
- `isValid_iff`: when a record passes.
- `passed_meets_iff`: a record that passes holds the expected integers just if these fields hold integers at all. In a
  record that was read from a dump they do, since reading goes by the name of a field for its kind.
- `passed_other_kind`: a record that passes, and holds no integer for its type.
-/
import DeviceDump.Proofs.Check.Findings
import DeviceDump.Proofs.Dump.RoundTrip

namespace DeviceDump

namespace Expectation

/-- the integers that are expected, each under the name of its field -/
def integers (e : Expectation) : List (Name × Int64) :=
  [(Field.type, e.type.code), (Field.version, e.version), (Field.tokenLength, e.tokenLength)]

/-- the record holds the expected integers -/
def MetBy (e : Expectation) (r : Record) : Prop := ∀ p ∈ e.integers, r.integer? p.1 = some p.2

instance (e : Expectation) (r : Record) : Decidable (e.MetBy r) :=
  inferInstanceAs (Decidable (∀ p ∈ e.integers, r.integer? p.1 = some p.2))

variable {e : Expectation} {r : Record}

theorem map_fst_integers (e : Expectation) : e.integers.map Prod.fst = Field.compared := rfl

theorem mem_required_of_mem_integers {p : Name × Int64} (h : p ∈ e.integers) : p.1 ∈ Field.required := by
  have hc : p.1 ∈ Field.compared := map_fst_integers e ▸ List.mem_map_of_mem h
  exact (by decide : ∀ name ∈ Field.compared, name ∈ Field.required) p.1 hc

/-! ## Records that pass -/

theorem isValid_iff : (e.check r).isValid = true ↔
    (∀ field ∈ Field.required, r.contains field = true) ∧
    ∀ p ∈ e.integers, ∀ actual, r.integer? p.1 = some actual → actual = p.2 := by
  rw [Report.isValid, List.isEmpty_iff, violations_eq_nil_iff]
  simp [integers]

/-- What is under the name of an expected integer, in a record that passes: that integer, or a value of another kind. -/
theorem holds_or_other_kind (h : (e.check r).isValid = true) {p : Name × Int64} (hp : p ∈ e.integers) :
    r.integer? p.1 = some p.2 ∨ ∃ value, r.get? p.1 = some value ∧ value.kind ≠ .integer := by
  obtain ⟨hrequired, hequal⟩ := isValid_iff.1 h
  have hthere : (r.get? p.1).isSome = true := hrequired p.1 (mem_required_of_mem_integers hp)
  obtain ⟨value, hv⟩ := Option.isSome_iff_exists.1 hthere
  cases value with
  | integer n =>
    have hn : r.integer? p.1 = some n := by rw [Record.integer?, hv]; rfl
    exact Or.inl (hequal p hp n hn ▸ hn)
  | hex digits => exact Or.inr ⟨.hex digits, hv, nofun⟩
  | ascii t => exact Or.inr ⟨.ascii t, hv, nofun⟩

/-- A field that holds an integer holds nothing of another kind. -/
theorem kind_of_integer? {name : Name} {n : Int64} {value : Value} (h : r.integer? name = some n)
    (hv : r.get? name = some value) : value.kind = .integer := by
  rw [Record.integer?, hv] at h
  cases value with
  | integer m => rfl
  | hex digits => cases h
  | ascii t => cases h

theorem metBy_iff (h : (e.check r).isValid = true) : e.MetBy r ↔
    ∀ name ∈ Field.compared, ∀ value, r.get? name = some value → value.kind = .integer := by
  rw [← map_fst_integers e, List.forall_mem_map]
  constructor
  · intro hmet p hp value hv
    exact kind_of_integer? (hmet p hp) hv
  · intro hkind p hp
    rcases holds_or_other_kind h hp with hn | ⟨value, hv, hother⟩
    · exact hn
    · exact absurd (hkind p hp value hv) hother

/-! ## Records that were read -/

/-- What was read under a name is of the kind that the name calls for. -/
theorem kind_of_parse {text : Text} (h : Dump.parse text = .ok r) {name : Name} {value : Value}
    (hv : r.get? name = some value) : value.kind = Field.kind name := by
  have hs := Dump.storable_of_parse h
  obtain ⟨entries, -, rfl⟩ := Dump.parse_ok_iff.1 h
  rw [Record.get?_ofList] at hv
  exact (hs (name, value) (Record.mem_toList_ofList.2 hv)).kind

theorem kind_compared {name : Name} (h : name ∈ Field.compared) : Field.kind name = .integer :=
  (by decide : ∀ name ∈ Field.compared, Field.kind name = .integer) name h

/-! ## Main result -/

/-- **What passing means.** A record that passes holds each expected integer, or else a value that is no integer; so it
holds all of them just if the three fields hold integers at all. A record that was read from a dump and passes always
does. -/
theorem passed_meets_iff (e : Expectation) (r : Record) (h : (e.check r).isValid = true) :
    (∀ p ∈ e.integers, r.integer? p.1 = some p.2 ∨ ∃ value, r.get? p.1 = some value ∧ value.kind ≠ .integer) ∧
    (e.MetBy r ↔ ∀ name ∈ Field.compared, ∀ value, r.get? name = some value → value.kind = .integer) ∧
    ∀ text, Dump.parse text = .ok r → e.MetBy r := by
  refine ⟨fun p hp => holds_or_other_kind h hp, metBy_iff h, fun text hp => ?_⟩
  rw [metBy_iff h]
  intro name hn value hv
  rw [kind_of_parse hp hv, kind_compared hn]

/-- the fields of a message, all of them required, with a given value for its type -/
def fieldsWithType (value : Value) : List (Name × Value) :=
  [(Field.version, .integer 1), (Field.type, value), (Field.tokenLength, .integer 1), (Field.code, .integer 2),
    (Field.messageId, .integer 7), (Field.token, .integer 9), (Field.uriPath, .ascii "ab"),
    (Field.contentFormat, .integer 0)]

/-- a message that is expected to be a reset -/
theorem passed_meets_iff_reset :
    (({ type := .reset } : Expectation).check (.ofList (fieldsWithType (.integer 3)))).isValid = true ∧
    ({ type := .reset } : Expectation).MetBy (.ofList (fieldsWithType (.integer 3))) := by
  have h : (({ type := .reset } : Expectation).check (.ofList (fieldsWithType (.integer 3)))).isValid = true := by
    decide
  have hkind : ∀ name ∈ Field.compared, ∀ value ∈ (Record.ofList (fieldsWithType (.integer 3))).get? name,
      value.kind = .integer := by decide
  exact ⟨h, (passed_meets_iff { type := .reset } _ h).2.1.2 hkind⟩

/-- **A record that passes without a type.** Under the name of the type stand hexadecimal digits, and nothing is found
wrong with that. -/
theorem passed_other_kind :
    (({} : Expectation).check (.ofList (fieldsWithType (.hex "01")))).isValid = true ∧
    (Record.ofList (fieldsWithType (.hex "01"))).integer? Field.type = none ∧
    ¬ ({} : Expectation).MetBy (.ofList (fieldsWithType (.hex "01"))) := by
  decide

end Expectation

end DeviceDump
