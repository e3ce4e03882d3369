/-
What a run shows that prints an accepted record as JSON: one line, and a document in which the record can be found
again.

The document does not say of which kind a value is: hexadecimal digits and 7-bit text both become strings. In a record
that was read from a dump the kind is known from the name, so nothing is lost.
- `json_inj`: a value is known from its kind and its document.
- `json_write_eq_iff`: records with storable fields have the same text just if they have the same fields, in order.
- `json_oneObject`: the text is that of one object, with a member for each field.
- `json_faithful`: all of it, for records that were read and for what a run shows.
-/
import DeviceDump.Proofs.Command.ParseRun
import DeviceDump.Proofs.Dump.RoundTrip
import DeviceDump.Proofs.Json.Unambiguous

namespace DeviceDump

open Text (OneLine shownLines)

/-! ## Fields and members -/

/-- Values of one kind are told apart by their documents. -/
theorem Value.json_inj {v w : Value} (hk : v.kind = w.kind) (h : v.json = w.json) : v = w := by
  cases v with
  | hex t =>
    cases w with
    | hex u => exact congrArg Value.hex (Json.text.inj h)
    | ascii u => cases hk
    | integer m => cases hk
  | ascii t =>
    cases w with
    | hex u => cases hk
    | ascii u => exact congrArg Value.ascii (Json.text.inj h)
    | integer m => cases hk
  | integer n =>
    cases w with
    | hex u => cases hk
    | ascii u => cases hk
    | integer m => exact congrArg Value.integer (Int64.toInt_inj.1 (Json.integer.inj h))

/-- the member that a field becomes -/
def member (field : Name × Value) : Text × Json := (field.1, field.2.json)

theorem member_inj {field other : Name × Value} (hf : StorableField field.1 field.2)
    (ho : StorableField other.1 other.2) (h : member field = member other) : field = other := by
  obtain ⟨name, value⟩ := field
  obtain ⟨name', value'⟩ := other
  obtain ⟨hname, hjson⟩ := Prod.mk.inj h
  have hname : name = name' := hname
  have hkind : value.kind = value'.kind := by rw [hf.kind, ho.kind, hname]
  rw [hname, Value.json_inj hkind hjson]

theorem map_member_inj {fields others : List (Name × Value)} (hf : ∀ field ∈ fields, StorableField field.1 field.2)
    (ho : ∀ field ∈ others, StorableField field.1 field.2) (h : fields.map member = others.map member) :
    fields = others := by
  induction fields generalizing others with
  | nil => exact (List.map_eq_nil_iff.1 h.symm).symm
  | cons field rest ih =>
    obtain ⟨other, tail, rfl, hm, hrest⟩ := List.map_eq_cons_iff.1 h.symm
    have hhead : field = other :=
      member_inj (hf field List.mem_cons_self) (ho other List.mem_cons_self) hm.symm
    have htail : rest = tail :=
      ih (fun f h => hf f (List.mem_cons_of_mem field h)) (fun f h => ho f (List.mem_cons_of_mem other h)) hrest.symm
    rw [hhead, htail]

namespace Record

/-- **The text says which fields the record has**, with their kinds and in order. -/
theorem json_write_eq_iff {r s : Record} (hr : r.Storable) (hs : s.Storable) :
    r.json.write = s.json.write ↔ r.toList = s.toList := by
  constructor
  · intro h
    exact map_member_inj hr hs (Json.object.inj (Json.write_injective h))
  · intro h
    rw [json, json, h]

/-- the text is that of one object, in which each field of the record is a member -/
structure OneObject (r : Record) (text : Text) : Prop where
  /-- no other document has this text -/
  document : ∀ doc : Json, doc.write = text ↔ doc = .object (r.toList.map fun field => (field.1, field.2.json))
  distinct : (r.toList.map Prod.fst).Nodup
  oneLine : OneLine text

theorem json_oneObject {r : Record} (h : r.Indexed) : r.OneObject r.json.write where
  document _ := Json.write_injective.eq_iff
  distinct := h.distinct
  oneLine := Json.oneLine_write r.json

end Record

namespace Command

/-! ## Runs -/

theorem stdout_json {call : ParseCall} {input : ByteArray} {r : Record} (hf : call.format?.getD .pretty = .json)
    (hv : call.verbose = false) (h : Accepted input r) (files : Text → Except ReadError ByteArray) :
    (run {} call.arguments (reading input files)).stdout = Text.line r.json.write := by
  rw [run_call, (parseContract call input).stdout_accepted r h, hf, hv]
  rfl

/-! ## Main result -/

/-- **JSON output is faithful.** Two records that were read have the same text just if they are equal, that is, if they
have the same names, kinds and values in the same order. The text of such a record is one object with a member for each
field, in order; no name stands twice, and it takes one line. A run that prints an accepted record in this form, without
confirmations, shows exactly this line. -/
theorem json_faithful :
    (∀ first second r s, Dump.parse first = .ok r → Dump.parse second = .ok s →
      (r.json.write = s.json.write ↔ (r == s) = true) ∧ ((r == s) = true ↔ r.toList = s.toList)) ∧
    (∀ text r, Dump.parse text = .ok r → r.OneObject r.json.write) ∧
    ∀ (call : ParseCall) (input : ByteArray) (r : Record) (files : Text → Except ReadError ByteArray),
      call.format?.getD .pretty = .json → call.verbose = false → Accepted input r →
        shownLines (run {} call.arguments (reading input files)).stdout = [r.json.write] ∧
        (run {} call.arguments (reading input files)).stdout = Text.line r.json.write := by
  refine ⟨fun first second r s hr hs => ?_, fun text r h => Record.json_oneObject (Dump.indexed_of_parse h),
    fun call input r files hf hv h => ?_⟩
  · have hequal := (Dump.indexed_of_parse hr).beq_iff_toList (Dump.indexed_of_parse hs)
    have htext := Record.json_write_eq_iff (Dump.storable_of_parse hr) (Dump.storable_of_parse hs)
    exact ⟨htext.trans hequal.symm, hequal⟩
  · rw [stdout_json hf hv h files]
    have hone : ∀ t ∈ [r.json.write], OneLine t := by
      intro t ht
      rw [List.mem_singleton.1 ht]
      exact Json.oneLine_write r.json
    have hline : Text.lineSeq [r.json.write] = Text.line r.json.write := by simp [Text.lineSeq]
    exact ⟨hline ▸ Text.shownLines_lineSeq_eq_self_iff.2 hone, rfl⟩

/-- the arguments `--format=json parse -` -/
def jsonCall : ParseCall :=
  ⟨[⟨.format .json, true⟩], [.input], by decide, by decide, by decide⟩

/-- the fields of a message that holds little but text -/
def textFields : List (Name × Value) := [(Field.payload, .hex "61"), (Field.uriPath, .ascii "a\n\"b")]

/-- Two ways to write the same fields, and a dump that is accepted. -/
theorem json_faithful_plain :
    (∃ r s, Dump.parse "payload:61\n\nuri_path:61 0a 22 62".toList = .ok r ∧
      Dump.parse "payload: 61\r\nuri_path:610A2262\n".toList = .ok s ∧ r.json.write = s.json.write ∧
      r.json.write = "\x7b\"payload\":\"61\",\"uri_path\":\"a\\n\\\"b\"\x7d".toList) ∧
    shownLines (run {} jsonCall.arguments (reading plainDump.toUTF8 fun _ => .error .notFound)).stdout =
      [("\x7b\"version\":1,\"type\":1,\"token_len\":1,\"code\":2,\"message_id\":7,\"token\":9,\"uri_path\":\"a/b\"," ++
        "\"content_format\":0\x7d" : String).toList] := by
  obtain ⟨hequal, -, hrun⟩ := json_faithful
  have hfirst : Dump.parse "payload:61\n\nuri_path:61 0a 22 62".toList = .ok (.ofList textFields) := rfl
  have hsecond : Dump.parse "payload: 61\r\nuri_path:610A2262\n".toList = .ok (.ofList textFields) := rfl
  refine ⟨⟨.ofList textFields, .ofList textFields, hfirst, hsecond, ?_, rfl⟩, ?_⟩
  · exact (hequal _ _ _ _ hfirst hsecond).1.2 (by decide)
  · exact (hrun jsonCall _ _ _ (by decide) (by decide) accepted_plainDump).1.trans rfl

end Command

end DeviceDump
