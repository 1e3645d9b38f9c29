import RoomDraw.Proofs.Csv.Records
import RoomDraw.Proofs.Csv.Rendering
import RoomDraw.Proofs.Text.Utf8

/-!
# The scanner finds the records of a table

Whatever text a table is written as, its bytes are laid out in the records of the table, so that the
scanner hands those over (`records_ofBytes`).
-/

namespace RoomDraw

namespace Csv

/-! ### Characters and bytes -/

/-- The bytes of a character that is not special are plain. -/
lemma plain_of_mem {b : UInt8} {c : Char} (hc : ¬Special c) (h : b ∈ String.utf8EncodeChar c) :
    Plain b := by
  have hne (d : Char) (hd : Special d) (hascii : d.toNat < 128) : b.toNat ≠ d.toNat := by
    intro heq
    have := Utf8.toNat_eq_of_mem_utf8EncodeChar h (heq ▸ hascii)
    exact hc (Char.toNat_inj.mp (this.trans heq) ▸ hd)
  have hquote := hne '"' (by simp [Special]) (by decide)
  have hcomma := hne ',' (by simp [Special]) (by decide)
  have hlf := hne '\n' (by simp [Special]) (by decide)
  have hcr := hne '\r' (by simp [Special]) (by decide)
  refine ⟨?_, ?_, Bool.eq_false_iff.mpr fun hends => ?_⟩
  · rintro rfl
    exact hquote rfl
  · rintro rfl
    exact hcomma rfl
  · rcases endsRecord_eq_true_iff.mp hends with rfl | rfl
    · exact hlf rfl
    · exact hcr rfl

lemma ne_quote_of_mem {b : UInt8} {c : Char} (hc : c ≠ '"') (h : b ∈ String.utf8EncodeChar c) :
    b ≠ quote := by
  rintro rfl
  exact hc (Char.toNat_inj.mp (Utf8.toNat_eq_of_mem_utf8EncodeChar h (by decide)))

/-- The quotes among the bytes of a text are those among its characters. -/
lemma doubled_ofChars (text : List Char) :
    doubled (Utf8.ofChars text) = Utf8.ofChars (doubleQuotes text) := by
  induction text with
  | nil => rfl
  | cons c text ih =>
    have hcons : doubleQuotes (c :: text) =
        (if c = '"' then ['"', '"'] else [c]) ++ doubleQuotes text := List.flatMap_cons
    rw [Utf8.ofChars_cons, doubled_append, ih, hcons, Utf8.ofChars_append]
    congr 1
    by_cases hc : c = '"'
    · subst hc
      decide
    · rw [doubled_of_forall_ne fun b hb => ne_quote_of_mem hc hb, if_neg hc, Utf8.ofChars_cons,
        Utf8.ofChars_nil, List.append_nil]

/-! ### Fields and records -/

lemma fieldBytes_of_fieldText {name : String} {text : List Char} (h : FieldText name text) :
    FieldBytes (Utf8.encode name) (Utf8.ofChars text) := by
  rw [Utf8.encode_eq_ofChars]
  cases h with
  | bare hbare =>
    have hplain : ∀ b ∈ Utf8.ofChars name.toList, Plain b := by
      intro b hb
      obtain ⟨c, hc, hb⟩ := List.mem_flatMap.mp hb
      exact plain_of_mem (hbare c hc) hb
    refine .bare ⟨fun b hb => (hplain b hb).2, fun hquote => ?_⟩
    exact (hplain quote (List.mem_of_head? hquote)).1 rfl
  | quoted =>
    have hnil : Loose [] := ⟨by simp, by simp⟩
    have hquote : String.utf8EncodeChar '"' = [quote] := by decide
    have hquoted : FieldBytes (Utf8.ofChars name.toList ++ []) _ := .quoted hnil
    simpa [Utf8.ofChars_cons, doubled_ofChars, hquote] using hquoted

lemma fieldsBytes_of_fieldsText {names : List String} {text : List Char}
    (h : FieldsText names text) :
    FieldsBytes false (names.map Utf8.encode) (Utf8.ofChars text) := by
  induction h with
  | last hfield => exact .last (fieldBytes_of_fieldText hfield)
  | cons hfield _ ih =>
    have hcomma : String.utf8EncodeChar ',' = [comma] := by decide
    simpa [Utf8.ofChars_cons, hcomma] using .cons (fieldBytes_of_fieldText hfield) ih

lemma ofChars_lineEnd {lineEnd : List Char} (h : LineEnd lineEnd) :
    ∃ b bytes, Utf8.ofChars lineEnd = b :: bytes ∧ endsRecord b = true ∧
      ∀ b' ∈ bytes, endsRecord b' = true := by
  cases h with
  | lineFeed => exact ⟨lineFeed, [], by decide, by decide, by simp⟩
  | carriageReturn => exact ⟨carriageReturn, [], by decide, by decide, by simp⟩
  | both => exact ⟨carriageReturn, [lineFeed], by decide, by decide, by simp [endsRecord]⟩

lemma endsRecord_of_emptyLines {gap : List Char} (h : EmptyLines gap) :
    ∀ b ∈ Utf8.ofChars gap, endsRecord b = true := by
  induction h with
  | none => simp
  | cons hend _ ih =>
    obtain ⟨b, bytes, hbytes, hb, hends⟩ := ofChars_lineEnd hend
    rw [Utf8.ofChars_append, hbytes]
    exact List.forall_mem_append.mpr ⟨List.forall_mem_cons.mpr ⟨hb, hends⟩, ih⟩

/-! ### A table -/

/-- The bytes of records are laid out in these records. What is left of the end of the line before
them belongs to the first one, or to what stands behind the last. -/
lemma exists_sheet_of_recordsText {records : List (List String)} {text : List Char}
    (h : RecordsText records text) {gap : Bytes} (hgap : ∀ b ∈ gap, endsRecord b = true) :
    ∃ sheet : Sheet, sheet.Of (gap ++ Utf8.ofChars text) ∧
      (sheet.records .complete).map (·.fields) = records.map (·.map Utf8.encode) := by
  induction h generalizing gap with
  | none => exact ⟨⟨[], ⟨gap, [], [], []⟩⟩, ⟨by simp, ⟨hgap, .inl rfl, rfl⟩, rfl⟩, rfl⟩
  | @unended fields text hrecord =>
    refine ⟨⟨[], ⟨gap, Utf8.ofChars text, [], fields.map Utf8.encode⟩⟩, ⟨by simp, ?_, ?_⟩, ?_⟩
    · exact ⟨hgap, .inr ⟨false, fieldsBytes_of_fieldsText hrecord.1⟩, rfl⟩
    · simp [Line.bytes]
    · simp [Sheet.records, Utf8.ofChars_ne_nil hrecord.2]
  | @cons fields records text lineEnd lines rest hrecord hend hlines _ ih =>
    obtain ⟨b, bytes, hbytes, hb, hends⟩ := ofChars_lineEnd hend
    obtain ⟨sheet, ⟨hsheet, hlast, hrest⟩, hfields⟩ :=
      ih (List.forall_mem_append.mpr ⟨hends, endsRecord_of_emptyLines hlines⟩)
    let line : Line := ⟨gap, Utf8.ofChars text, [b], fields.map Utf8.encode⟩
    have hline : line.Ended :=
      ⟨hgap, fieldsBytes_of_fieldsText hrecord.1, Utf8.ofChars_ne_nil hrecord.2, b, hb, rfl⟩
    refine ⟨⟨line :: sheet.lines, sheet.last⟩,
      ⟨List.forall_mem_cons.mpr ⟨hline, hsheet⟩, hlast, ?_⟩, ?_⟩
    · rw [List.flatMap_cons, List.append_assoc, hrest]
      simp [hbytes, line, Line.bytes]
    · exact congrArg (fields.map Utf8.encode :: ·) hfields

/-! ### The front of the text -/

/-- Only the byte-order mark itself has bytes that begin with its bytes. -/
lemma eq_of_isPrefixOf_utf8EncodeChar {c : Char} {bytes : Bytes}
    (h : Feed.byteOrderMark.isPrefixOf (String.utf8EncodeChar c ++ bytes) = true) :
    c = '\uFEFF' := by
  have hvalid := c.valid
  simp only [UInt32.isValidChar, Nat.isValidChar] at hvalid
  apply Char.toNat_inj.mp
  change c.val.toNat = 65279
  rw [String.utf8EncodeChar] at h
  generalize c.val.toNat = code at h hvalid ⊢
  -- the first byte is that of a character of three bytes, and the other two tell which
  split_ifs at h <;>
    simp [Feed.byteOrderMark, List.isPrefixOf, ← UInt8.toNat_inj] at h <;> omega

/-- A text whose first character is no byte-order mark does not begin with the bytes of one. -/
lemma not_isPrefixOf_byteOrderMark {text : List Char} (h : text.head? ≠ some '\uFEFF') :
    Feed.byteOrderMark.isPrefixOf (Utf8.ofChars text) = false := by
  refine Bool.eq_false_iff.mpr fun hmark => ?_
  cases text with
  | nil => cases hmark
  | cons c text =>
    rw [Utf8.ofChars_cons] at hmark
    rw [eq_of_isPrefixOf_utf8EncodeChar hmark] at h
    exact h rfl

lemma markLength_ofBytes {text : List Char} (h : text.head? ≠ some '\uFEFF') :
    (Feed.ofBytes (Utf8.ofChars text)).markLength = 0 :=
  if_neg (by simp [not_isPrefixOf_byteOrderMark h])

lemma effective_ofBytes {text : List Char} (h : text.head? ≠ some '\uFEFF') :
    (Feed.ofBytes (Utf8.ofChars text)).effective = .ofBytes (Utf8.ofChars text) := by
  refine if_neg fun hmark => ?_
  have := not_isPrefixOf_byteOrderMark h
  rw [Option.some.inj hmark] at this
  cases this

/-- The records of a table are those that its text was written from. -/
lemma records_ofBytes {records : List (List String)} {text : List Char}
    (h : TableText records text) :
    (Csv.records (.ofBytes (Utf8.ofChars text))).map (·.fields) =
      records.map (·.map Utf8.encode) := by
  obtain ⟨⟨gap, rest, hgap, hrest, htext⟩, hmark⟩ := h
  obtain ⟨sheet, hsheet, hfields⟩ :=
    exists_sheet_of_recordsText hrest (endsRecord_of_emptyLines hgap)
  have hcontent : (Feed.ofBytes (Utf8.ofChars text)).content =
      Utf8.ofChars gap ++ Utf8.ofChars rest := by
    rw [Feed.content, markLength_ofBytes hmark, List.drop_zero, ← Utf8.ofChars_append, ← htext]
    exact List.append_nil _
  rw [records_eq_placedRecords (hcontent ▸ hsheet), Sheet.placedRecords, map_fields_placed]
  exact hfields

end Csv

end RoomDraw
