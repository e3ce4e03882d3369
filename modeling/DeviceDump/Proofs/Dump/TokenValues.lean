/-
Lists of bytes as values in a dump. The canonical form of such a list can stand behind the name of a field, with its
spaces or without them. It is read there by the rules of the field, which know nothing of tokens, and comes out as the
same bytes: as a 7-bit text if it can be one, and as the digits of a payload.
- `parse_singleLine`: a dump of one line is read as what stands on the two sides of its colon.
- `unspaced_formatBytes`, `withoutBlanks_formatBytes`: without its spaces a canonical form consists of pairs of digits.
- `parse_canonical_value`: any list that is read as bytes, in all three fields.
-/
import DeviceDump.Proofs.Dump.Names
import DeviceDump.Proofs.Hex.Bytes
import DeviceDump.Proofs.Text.Spaced
import DeviceDump.Proofs.Value.AsciiField

namespace DeviceDump

namespace Dump

/-! ## Dumps of one line -/

variable {field : Name} {raw text line : Text}

theorem parse_of_lines_singleton (h : text.lines = [line]) (hne : line ≠ []) :
    parse text = (readLine line 1).map fun entry => Record.ofList [entry] := by
  have hempty : ¬ line.isEmpty = true := by simpa using hne
  have hnumbered : text.numberedLines = [(line, 1)] := by
    rw [Text.numberedLines, h]
    rfl
  rw [parse, scan, hnumbered, Reading.run, if_neg hempty]
  cases readLine line 1 with
  | error e => rfl
  | ok entry => exact congrArg Except.ok (Reading.add_record {} entry.1 entry.2)

/-- A name and a trimmed text with a colon between them are read as the text's value under that name. -/
theorem parse_singleLine (hc : ':' ∉ field) (hname : field.trim = field ∧ Text.OneLine field)
    (hraw : raw.trim = raw ∧ Text.OneLine raw) (htext : text ∈ Text.singleLine (field ++ ':' :: raw)) :
    parse text = (Value.decode field raw).map fun value => Record.ofList [(field, value)] := by
  have hone : Text.OneLine (field ++ ([':'] ++ raw)) :=
    Text.oneLine_append.2 ⟨hname.2, Text.oneLine_append.2 ⟨by decide, hraw.2⟩⟩
  have hreturn : (field ++ ':' :: raw).getLast? ≠ some '\r' := by
    rw [List.getLast?_append_cons, List.getLast?_cons]
    cases hl : raw.getLast? with
    | none => decide
    | some c =>
      rintro ⟨rfl⟩
      exact absurd ((Text.trim_eq_self_iff.1 hraw.1).2 _ hl) (by decide)
  rw [parse_of_lines_singleton (Text.lines_of_mem_singleLine htext hone (by simp) hreturn) (by simp), readLine,
    entry?_append hc, hname.1, hraw.1]
  show ((Value.decode field raw).map (field, ·)).map _ = _
  cases Value.decode field raw <;> rfl

end Dump

namespace Hex

/-! ## Canonical forms without their spaces -/

theorem isBlank_of_mem_byteText {b : UInt8} {c : Char} (h : c ∈ byteText b) : Text.isBlank c = false :=
  isBlank_of_mem_encode (List.mem_flatMap.2 ⟨b, List.mem_singleton_self b, h⟩)

/-- a text with the spaces taken out of it -/
def unspaced (t : Text) : Text := t.filter (· != ' ')

theorem unspaced_formatBytes (bytes : List UInt8) : unspaced (formatBytes bytes) = encode bytes := by
  refine Text.filter_intercalate (by decide) (List.forall_mem_map.2 fun b _ c hc => ?_)
  rw [bne_iff_ne]
  rintro rfl
  exact absurd (isBlank_of_mem_byteText hc) (by decide)

theorem withoutBlanks_formatBytes (bytes : List UInt8) : (formatBytes bytes).withoutBlanks = encode bytes :=
  Text.filter_intercalate (by decide) (List.forall_mem_map.2 fun b _ c hc => by simp [isBlank_of_mem_byteText hc])

theorem trim_formatBytes (bytes : List UInt8) : (formatBytes bytes).trim = formatBytes bytes :=
  Text.trim_intercalate (List.forall_mem_map.2 fun b _ => by simp [byteText])
    (List.forall_mem_map.2 fun _ _ _ hc => isBlank_of_mem_byteText hc)

/-- what a field holds of bytes: their canonical form, with its spaces or without them -/
inductive Spelling (bytes : List UInt8) : Text → Prop
  | spaced : Spelling bytes (formatBytes bytes)
  | unspaced : Spelling bytes (encode bytes)

variable {bytes : List UInt8} {value : Text}

theorem Spelling.withoutBlanks (h : Spelling bytes value) : value.withoutBlanks = encode bytes := by
  cases h with
  | spaced => exact withoutBlanks_formatBytes bytes
  | unspaced => exact Value.withoutBlanks_encode bytes

theorem Spelling.trim (h : Spelling bytes value) : Text.trim value = value := by
  cases h with
  | spaced => exact trim_formatBytes bytes
  | unspaced => exact Text.trim_of_forall fun _ hc => isBlank_of_mem_encode hc

theorem Spelling.oneLine (h : Spelling bytes value) : Text.OneLine value := by
  have hencode : Text.OneLine (encode bytes) := Text.oneLine_of_forall fun _ hc => isBlank_of_mem_encode hc
  cases h with
  | unspaced => exact hencode
  | spaced =>
    intro hn
    have : '\n' ∈ Hex.unspaced (formatBytes bytes) := List.mem_filter.2 ⟨hn, by decide⟩
    rw [unspaced_formatBytes] at this
    exact hencode this

end Hex

namespace Dump

/-! ## Main result -/

/-- A 7-bit field that holds bytes is read as their text, or refused for one beyond 7 bits. -/
theorem parse_ascii_spelling {field : Name} (hf : field = Field.uriPath ∨ field = Field.uriQuery) {bytes : List UInt8}
    {value text : Text} (hv : Hex.Spelling bytes value) (htext : text ∈ Text.singleLine (field ++ ':' :: value)) :
    parse text =
      if bytes.all (· < 0x80) then .ok (Record.ofList [(field, .ascii (bytes.map Char.ofUInt8))])
      else .error (.notAscii field value) := by
  have hname : ':' ∉ field ∧ Text.trim field = field ∧ Text.OneLine field := by
    rcases hf with rfl | rfl <;> decide
  rw [parse_singleLine hname.1 hname.2 ⟨hv.trim, hv.oneLine⟩ htext, Value.decode_eq_decodeAscii hf,
    Value.decodeAscii_of_encode hv.withoutBlanks]
  split_ifs <;> rfl

/-- what dumps of one line are read as that hold a canonical form of bytes -/
structure FeedsDump (bytes : List UInt8) (canonical : Text) : Prop where
  /-- 7-bit bytes are read as the text that has them -/
  ascii : (∀ b ∈ bytes, b.toNat < 0x80) → ∀ field ∈ [Field.uriPath, Field.uriQuery],
    ∀ value ∈ [canonical, Hex.unspaced canonical], ∀ text ∈ Text.singleLine (field ++ ':' :: value),
      ∃ t, Text.utf8 t = bytes ∧ parse text = .ok (Record.ofList [(field, .ascii t)])
  /-- other bytes are refused, and shown as they stand in the line -/
  notAscii : (∃ b ∈ bytes, 0x80 ≤ b.toNat) → ∀ field ∈ [Field.uriPath, Field.uriQuery],
    ∀ value ∈ [canonical, Hex.unspaced canonical], ∀ text ∈ Text.singleLine (field ++ ':' :: value),
      parse text = .error (.notAscii field value)
  /-- a payload keeps the digits -/
  payload : ∀ text ∈ Text.singleLine (Field.payload ++ ':' :: Hex.unspaced canonical),
    parse text = .ok (Record.ofList [(Field.payload, .hex (Hex.unspaced canonical))])
  /-- which are read as the bytes on demand, and written as they are -/
  hexBytes : (Value.hex (Hex.unspaced canonical)).hexBytes? = some (.ok bytes)
  dumped : (Value.hex (Hex.unspaced canonical)).dumped = Hex.unspaced canonical

theorem feedsDump_formatBytes (bytes : List UInt8) : FeedsDump bytes (Hex.formatBytes bytes) := by
  have hspelling : ∀ value ∈ [Hex.formatBytes bytes, Hex.unspaced (Hex.formatBytes bytes)],
      Hex.Spelling bytes value := by
    rw [Hex.unspaced_formatBytes]
    simp [Hex.Spelling.spaced, Hex.Spelling.unspaced]
  have hascii : ∀ field ∈ [Field.uriPath, Field.uriQuery], field = Field.uriPath ∨ field = Field.uriQuery := by simp
  refine ⟨fun hb field hf value hv text ht => ?_, fun hb field hf value hv text ht => ?_, fun text ht => ?_, ?_, rfl⟩
  · refine ⟨bytes.map Char.ofUInt8, Text.utf8_map_ofUInt8 hb, ?_⟩
    rw [parse_ascii_spelling (hascii field hf) (hspelling value hv) ht, if_pos (Value.all_lt_iff.2 hb)]
  · have hhigh : ¬ bytes.all (· < 0x80) = true := by
      rw [Value.all_lt_iff]
      simpa using hb
    rw [parse_ascii_spelling (hascii field hf) (hspelling value hv) ht, if_neg hhigh]
  · have hv := hspelling (Hex.unspaced (Hex.formatBytes bytes)) (by simp)
    rw [parse_singleLine (by decide) (by decide) ⟨hv.trim, hv.oneLine⟩ ht]
    rfl
  · rw [Hex.unspaced_formatBytes, Value.hexBytes?, Hex.decode_encode]

/-- **A list that is read as bytes can be put into a dump in canonical form.** As a 7-bit field it is read as the text
of the same bytes, with its spaces or without them, unless one of the bytes is beyond 7 bits; as a payload, without its
spaces, it is kept as it is and stands for the same bytes. -/
theorem parse_canonical_value {input : Text} {bytes : List UInt8} (h : Hex.parseBytes input = .ok bytes) :
    ∃ canonical, Hex.normalize input = .ok canonical ∧ canonical = Hex.formatBytes bytes ∧
      FeedsDump bytes canonical :=
  ⟨_, Hex.parseBytes_ok_iff_normalize.1 h, rfl, feedsDump_formatBytes bytes⟩

/-- One list whose bytes are 7-bit, and one with a byte beyond. -/
theorem parse_canonical_value_query :
    Hex.parseBytes "0X61,3D, 0x0031".toList = .ok [0x61, 0x3D, 0x31] ∧
    (∃ t, Text.utf8 t = [0x61, 0x3D, 0x31] ∧
      parse "uri_query:61 3d 31\r\n".toList = .ok (Record.ofList [(Field.uriQuery, .ascii t)])) ∧
    parse "payload:613d31".toList = .ok (Record.ofList [(Field.payload, .hex "613d31".toList)]) ∧
    Hex.parseBytes "61 fF".toList = .ok [0x61, 0xFF] ∧
    parse "uri_path:61ff\n".toList = .error (.notAscii Field.uriPath "61ff".toList) := by
  have h : Hex.parseBytes "0X61,3D, 0x0031".toList = .ok [0x61, 0x3D, 0x31] := by decide
  have h' : Hex.parseBytes "61 fF".toList = .ok [0x61, 0xFF] := by decide
  obtain ⟨_, -, rfl, hfeeds⟩ := parse_canonical_value h
  obtain ⟨_, -, rfl, hfeeds'⟩ := parse_canonical_value h'
  refine ⟨h, ?_, ?_, h', ?_⟩
  · exact hfeeds.ascii (by simp) Field.uriQuery (by decide) "61 3d 31".toList (by decide) _ (by decide)
  · exact hfeeds.payload _ (by decide)
  · exact hfeeds'.notAscii (by decide) Field.uriPath (by decide) "61ff".toList (by decide) _ (by decide)

end Dump

end DeviceDump
