/-
Which records survive being written as a dump and read again. Writing puts down any name and any value; reading cuts
at newlines and colons, trims, and goes by the name for the kind. The fields that come through unharmed are the
storable ones (`StorableField`), and a record comes through just if all its fields do.
- `says_dumpedField`, `lines_dump`: a storable field is a line of its own, and the line says that field.
- `storableField_of_says`: whatever a line says is storable, so reading never gives anything else.
- `parse_dump_iff_storable`: both together.
-/
import DeviceDump.Proofs.Dump.Meaning
import DeviceDump.Proofs.Text.Lines
import DeviceDump.Proofs.Value.Dumped

namespace DeviceDump

/-- a field that a dump can hold: its name is trimmed and has no colon or newline in it, its value is of the kind that
the name calls for, hexadecimal digits are trimmed and without a newline, a text is 7-bit -/
structure StorableField (name : Name) (value : Value) : Prop where
  noColon : ':' ∉ name
  noNewline : '\n' ∉ name
  trimmed : name.trim = name
  kind : value.kind = Field.kind name
  hex : ∀ digits, value = .hex digits → '\n' ∉ digits ∧ digits.trim = digits
  ascii : ∀ t, value = .ascii t → ∀ c ∈ t, c.toNat < 0x80

/-- a record of storable fields -/
def Record.Storable (r : Record) : Prop := ∀ field ∈ r.toList, StorableField field.1 field.2

namespace Dump

/-! ## Writing -/

/-- What is written for a storable value has no newline and no blank at its ends. -/
theorem dumped_trimmed {name : Name} {value : Value} (h : StorableField name value) :
    '\n' ∉ value.dumped ∧ value.dumped.trim = value.dumped := by
  by_cases hk : value.kind = .hex
  · cases value with
    | hex digits => exact h.hex digits rfl
    | ascii t => cases hk
    | integer n => cases hk
  · have hb : ∀ c ∈ value.dumped, Text.isBlank c = false := fun c hc => isBlank_of_mem_dumped hk hc
    exact ⟨fun hn => absurd (hb _ hn) (by decide), Text.trim_of_forall hb⟩

theorem oneLine_dumpedField {name : Name} {value : Value} (h : StorableField name value) :
    Text.OneLine (Record.dumpedField name value) := by
  simp [Text.OneLine, Record.dumpedField, h.noNewline, (dumped_trimmed h).1]

/-- A line that is written does not end with a carriage return, which reading would take off. -/
theorem chomp_dumpedField {name : Name} {value : Value} (h : StorableField name value) :
    Text.chomp (Record.dumpedField name value) = Record.dumpedField name value := by
  apply Text.chomp_of_getLast?
  rw [Record.dumpedField, List.getLast?_append_cons, List.getLast?_cons]
  cases hl : value.dumped.getLast? with
  | none => decide
  | some c =>
    have hc : Text.isBlank c = false := (Text.trim_eq_self_iff.1 (dumped_trimmed h).2).2 c hl
    rintro ⟨rfl⟩
    exact absurd hc (by decide)

/-- The line written for a storable field says that field. -/
theorem says_dumpedField {name : Name} {value : Value} (h : StorableField name value) (number : Nat) :
    Says (Record.dumpedField name value) number (.ok (name, value)) := by
  have hs : Says (Record.dumpedField name value) number _ := .field name value.dumped rfl h.noColon
  rwa [h.trimmed, (dumped_trimmed h).2, Value.decode_dumped h.kind h.ascii] at hs

theorem lines_dump {r : Record} (h : r.Storable) :
    Text.lines r.dump = r.toList.map fun field => Record.dumpedField field.1 field.2 := by
  have hn : ∀ t ∈ r.toList.map fun field => Record.dumpedField field.1 field.2, Text.OneLine t := by
    intro t ht
    obtain ⟨field, hf, rfl⟩ := List.mem_map.1 ht
    exact oneLine_dumpedField (h field hf)
  refine (Text.lines_lineSeq hn).trans ?_
  rw [List.map_map]
  exact List.map_congr_left fun field hf => chomp_dumpedField (h field hf)

theorem allSay_zipIdx {fields : List (Name × Value)} (h : ∀ field ∈ fields, StorableField field.1 field.2)
    (number : Nat) :
    AllSay ((fields.map fun field => Record.dumpedField field.1 field.2).zipIdx number) fields := by
  induction fields generalizing number with
  | nil => exact .nil
  | cons field rest ih =>
    exact .cons (says_dumpedField (h field List.mem_cons_self) number)
      (ih (fun f hf => h f (List.mem_cons_of_mem field hf)) (number + 1))

/-- The lines of a storable record's dump say its fields, in order. -/
theorem allSay_dump {r : Record} (h : r.Storable) : AllSay (spokenLines r.dump) r.toList := by
  have hs := allSay_zipIdx h 1
  rw [← lines_dump h] at hs
  have hall : spokenLines r.dump = r.dump.numberedLines := by
    refine List.filter_eq_self.2 fun l hl => ?_
    obtain ⟨entry, he⟩ := hs.exists_of_mem hl
    simpa using ne_nil_of_says_ok he
  rwa [hall]

/-! ## Reading -/

/-- Whatever a line says is storable. -/
theorem storableField_of_says {line : Text} {number : Nat} {entry : Name × Value} (hl : Text.OneLine line)
    (h : Says line number (.ok entry)) : StorableField entry.1 entry.2 := by
  obtain ⟨name, value⟩ := entry
  obtain ⟨before, after, rfl, hb, rfl, hd⟩ := says_ok_iff.1 h
  obtain ⟨hk, hx, ha⟩ := Value.decode_ok hd
  refine ⟨fun hc => hb (Text.mem_of_mem_trim hc), fun hn => hl ?_, Text.trim_trim before, hk, ?_, ha⟩
  · simp [Text.mem_of_mem_trim hn]
  · intro digits hv
    rw [hx digits hv]
    refine ⟨fun hn => hl ?_, Text.trim_trim after⟩
    simp [Text.mem_of_mem_trim hn]

theorem storable_of_allSay {dump : Text} {entries : List (Name × Value)} (h : AllSay (spokenLines dump) entries) :
    (Record.ofList entries).Storable := by
  intro field hf
  have hm : field ∈ entries := mem_of_latest? (Record.mem_toList_ofList.1 hf)
  obtain ⟨i, hi, rfl⟩ := List.getElem_of_mem hm
  have hi' : i < (spokenLines dump).length := by rw [h.length_eq]; exact hi
  have hl : (spokenLines dump)[i] ∈ dump.numberedLines := (List.mem_filter.1 (List.getElem_mem hi')).1
  exact storableField_of_says (Text.oneLine_of_mem_lines (Text.mem_lines_of_mem_numberedLines hl)) (h.get hi' hi)

/-- **Every record that is read is storable.** -/
theorem storable_of_parse {dump : Text} {r : Record} (h : parse dump = .ok r) : r.Storable := by
  obtain ⟨entries, hs, rfl⟩ := parse_ok_iff.1 h
  exact storable_of_allSay hs

/-- **A storable record is read back from its dump**, whatever history made it. -/
theorem parse_dump_of_storable {entries : List (Name × Value)} (h : (Record.ofList entries).Storable) :
    parse (Record.ofList entries).dump = .ok (Record.ofList entries) := by
  rw [parse_of_allSay (allSay_dump h), Record.ofList_toList]

/-! ## Main result -/

/-- **Reading undoes writing exactly on the storable records.** A record made by any insertions is read back from its
dump just if it is storable, be it that the very same record is asked for or only an equal one; and whatever is read
from any text is storable, and so is read back from its own dump. -/
theorem parse_dump_iff_storable (entries : List (Name × Value)) :
    (parse (Record.ofList entries).dump = .ok (Record.ofList entries) ↔ (Record.ofList entries).Storable) ∧
    ((∃ r, parse (Record.ofList entries).dump = .ok r ∧ (r == Record.ofList entries) = true) ↔
      (Record.ofList entries).Storable) ∧
    ∀ dump r, parse dump = .ok r → r.Storable ∧ parse r.dump = .ok r := by
  refine ⟨⟨storable_of_parse, parse_dump_of_storable⟩, ⟨?_, fun h => ?_⟩, fun dump r h => ?_⟩
  · rintro ⟨r, h, hb⟩
    have hs := storable_of_parse h
    obtain ⟨others, -, rfl⟩ := parse_ok_iff.1 h
    have ht := ((Record.ofList_indexed others).beq_iff_toList (Record.ofList_indexed entries)).1 hb
    rwa [Record.Storable, ht] at hs
  · have hi := Record.ofList_indexed entries
    exact ⟨Record.ofList entries, parse_dump_of_storable h, (hi.beq_iff_toList hi).2 rfl⟩
  · have hs := storable_of_parse h
    obtain ⟨others, -, rfl⟩ := parse_ok_iff.1 h
    exact ⟨hs, parse_dump_of_storable hs⟩

end Dump

end DeviceDump
