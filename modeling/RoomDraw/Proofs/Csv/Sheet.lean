import Mathlib.Data.List.TakeWhile
import Mathlib.Tactic.Lemma
import RoomDraw.Csv.Scanner

/-!
# How bytes are laid out in records

Any bytes whatever are records, one after the other, with line ends between them. A record has come
to an end if a line end stands behind it outside quotes. Behind the last of those, the input may
break off in the middle of one more. Every byte string is laid out in this way
(`exists_sheet`).
-/

namespace RoomDraw

namespace Csv

/-! ### Fields -/

/-- A byte that belongs to a field outside quotes. -/
def Bare (b : UInt8) : Prop := b ≠ comma ∧ endsRecord b = false

instance : DecidablePred Bare := fun _ => inferInstanceAs (Decidable (_ ∧ _))

/-- Bytes that belong to a field as they stand. A quote among them is a byte like any other, save
in front of them. -/
structure Loose (bytes : Bytes) : Prop where
  bare : ∀ b ∈ bytes, Bare b
  unquoted : bytes.head? ≠ some quote

/-- Bytes as they stand inside quotes, where a quote is written twice. -/
def doubled (bytes : Bytes) : Bytes :=
  bytes.flatMap fun b => if b = quote then [quote, quote] else [b]

/-- A field and the bytes it stands for. What follows the closing quote belongs to the field. -/
inductive FieldBytes : Bytes → Bytes → Prop where
  | bare {field} : Loose field → FieldBytes field field
  | quoted {inside rest} : Loose rest →
      FieldBytes (inside ++ rest) (quote :: (doubled inside ++ quote :: rest))

/-- The fields of a record and its bytes, with commas between them. If the record is unclosed, the
closing quote of the last field is missing. -/
inductive FieldsBytes : (unclosed : Bool) → List Bytes → Bytes → Prop where
  | last {field bytes} : FieldBytes field bytes → FieldsBytes false [field] bytes
  | unclosed {field} : FieldsBytes true [field] (quote :: doubled field)
  | cons {unclosed field fields bytes rest} : FieldBytes field bytes →
      FieldsBytes unclosed fields rest →
      FieldsBytes unclosed (field :: fields) (bytes ++ comma :: rest)

/-! ### Records -/

/-- A record where it stands: the line ends that are passed over before it, its bytes, and what
ends it. -/
structure Line where
  gap : Bytes
  text : Bytes
  close : Bytes
  fields : List Bytes

def Line.bytes (line : Line) : Bytes := line.gap ++ (line.text ++ line.close)

/-- The record has come to an end. -/
structure Line.Ended (line : Line) : Prop where
  gap : ∀ b ∈ line.gap, endsRecord b = true
  text : FieldsBytes false line.fields line.text
  text_ne : line.text ≠ []
  close : ∃ b, endsRecord b = true ∧ line.close = [b]

/-- The input breaks off in the record, or before its first byte. -/
structure Line.Unended (line : Line) : Prop where
  gap : ∀ b ∈ line.gap, endsRecord b = true
  text : line.text = [] ∨ ∃ unclosed, FieldsBytes unclosed line.fields line.text
  close : line.close = []

/-- The records of an input that have come to an end, and what there is behind them. -/
structure Sheet where
  lines : List Line
  last : Line

namespace Sheet

/-- The bytes are laid out in this way. -/
structure Of (sheet : Sheet) (bytes : Bytes) : Prop where
  lines : ∀ line ∈ sheet.lines, line.Ended
  last : sheet.last.Unended
  bytes_eq : sheet.lines.flatMap Line.bytes ++ sheet.last.bytes = bytes

/-- The records that are complete. At the end of the input, one that has begun is. -/
def records (sheet : Sheet) : FeedEnd → List Line
  | .complete => sheet.lines ++ (if sheet.last.text = [] then [] else [sheet.last])
  | .failed _ => sheet.lines

end Sheet

/-! ### Every byte string is laid out in records -/

@[simp] lemma doubled_nil : doubled [] = [] := rfl

lemma doubled_quote (bytes : Bytes) :
    doubled (quote :: bytes) = quote :: quote :: doubled bytes := rfl

lemma doubled_cons {b : UInt8} (hb : b ≠ quote) (bytes : Bytes) :
    doubled (b :: bytes) = b :: doubled bytes := by
  simp [doubled, hb]

lemma doubled_append (bytes bytes' : Bytes) :
    doubled (bytes ++ bytes') = doubled bytes ++ doubled bytes' :=
  List.flatMap_append

lemma doubled_of_forall_ne {bytes : Bytes} (h : ∀ b ∈ bytes, b ≠ quote) : doubled bytes = bytes := by
  induction bytes with
  | nil => rfl
  | cons b bytes ih =>
    rw [doubled_cons (h b (by simp)), ih fun b' hb' => h b' (by simp [hb'])]

/-- Inside quotes the first quote that is not one of two closes the field. -/
lemma exists_doubled : ∀ bytes : Bytes,
    (∃ inside rest, bytes = doubled inside ++ quote :: rest ∧ rest.head? ≠ some quote) ∨
      ∃ inside, bytes = doubled inside
  | [] => .inr ⟨[], rfl⟩
  | [b] => by
    by_cases hb : b = quote
    · exact .inl ⟨[], [], by simp [hb], by simp⟩
    · exact .inr ⟨[b], by simp [doubled_cons hb]⟩
  | b :: c :: bytes => by
    by_cases hb : b = quote
    · subst hb
      by_cases hc : c = quote
      · subst hc
        obtain ⟨inside, rest, rfl, hrest⟩ | ⟨inside, rfl⟩ := exists_doubled bytes
        · exact .inl ⟨quote :: inside, rest, by simp [doubled_quote], hrest⟩
        · exact .inr ⟨quote :: inside, by simp [doubled_quote]⟩
      · exact .inl ⟨[], c :: bytes, rfl, by simpa using hc⟩
    · obtain ⟨inside, rest, heq, hrest⟩ | ⟨inside, heq⟩ := exists_doubled (c :: bytes)
      · exact .inl ⟨b :: inside, rest, by simp [doubled_cons hb, heq], hrest⟩
      · exact .inr ⟨b :: inside, by simp [doubled_cons hb, heq]⟩

/-- The bytes of one kind at the front, and what follows them. -/
lemma exists_run (kind : UInt8 → Bool) (bytes : Bytes) :
    ∃ run rest, bytes = run ++ rest ∧ (∀ b ∈ run, kind b = true) ∧
      ∀ b ∈ rest.head?, kind b = false := by
  refine ⟨bytes.takeWhile kind, bytes.dropWhile kind, List.takeWhile_append_dropWhile.symm,
    fun b hb => List.mem_takeWhile_imp hb, fun b hb => ?_⟩
  have hnot := List.head?_dropWhile_not kind bytes
  rw [Option.mem_def.mp hb] at hnot
  simpa using hnot

/-- What belongs to a field outside quotes ends before a comma or a line end. -/
lemma exists_loose {bytes : Bytes} (h : bytes.head? ≠ some quote) :
    ∃ run rest, bytes = run ++ rest ∧ Loose run ∧ ∀ b ∈ rest.head?, ¬Bare b := by
  obtain ⟨run, rest, rfl, hrun, hrest⟩ := exists_run (Bare ·) bytes
  refine ⟨run, rest, rfl, ⟨fun b hb => by simpa using hrun b hb, ?_⟩,
    fun b hb => by simpa using hrest b hb⟩
  cases run with
  | nil => simp
  | cons b run => exact h

lemma exists_fieldBytes (bytes : Bytes) :
    (∃ field text rest, bytes = text ++ rest ∧ FieldBytes field text ∧ ∀ b ∈ rest.head?, ¬Bare b) ∨
      ∃ field, bytes = quote :: doubled field := by
  by_cases hquote : bytes.head? = some quote
  · obtain ⟨bytes, rfl⟩ := List.head?_eq_some_iff.mp hquote
    obtain ⟨inside, after, rfl, hafter⟩ | ⟨inside, rfl⟩ := exists_doubled bytes
    · obtain ⟨run, rest, rfl, hrun, hrest⟩ := exists_loose hafter
      exact .inl ⟨inside ++ run, _, rest, by simp, .quoted hrun, hrest⟩
    · exact .inr ⟨inside, rfl⟩
  · obtain ⟨run, rest, rfl, hrun, hrest⟩ := exists_loose hquote
    exact .inl ⟨run, run, rest, rfl, .bare hrun, hrest⟩

/-- A record goes on to a line end, or to the end of the bytes. -/
lemma exists_fieldsBytes (bytes : Bytes) :
    ∃ unclosed fields text rest, bytes = text ++ rest ∧ FieldsBytes unclosed fields text ∧
      (rest = [] ∨ unclosed = false ∧ ∃ b rest', rest = b :: rest' ∧ endsRecord b = true) := by
  obtain ⟨field, text, rest, heq, hfield, hrest⟩ | ⟨field, rfl⟩ := exists_fieldBytes bytes
  · cases rest with
    | nil => exact ⟨false, [field], text, [], heq, .last hfield, .inl rfl⟩
    | cons b rest =>
      by_cases hb : b = comma
      · subst hb
        obtain ⟨unclosed, fields, text', rest', rfl, hfields, hrest'⟩ := exists_fieldsBytes rest
        exact ⟨unclosed, field :: fields, text ++ comma :: text', rest', by simp [heq],
          .cons hfield hfields, hrest'⟩
      · have hends : endsRecord b = true := by
          by_contra hnot
          exact hrest b rfl ⟨hb, by simpa using hnot⟩
        exact ⟨false, [field], text, b :: rest, heq, .last hfield, .inr ⟨rfl, b, rest, rfl, hends⟩⟩
  · exact ⟨true, [field], _, [], by simp, .unclosed, .inl rfl⟩
termination_by bytes.length
decreasing_by simp [heq]; omega

/-- All bytes are laid out in records. -/
lemma exists_sheet (bytes : Bytes) : ∃ sheet : Sheet, sheet.Of bytes := by
  obtain ⟨gap, behind, heq, hgap, hbehind⟩ := exists_run endsRecord bytes
  obtain ⟨unclosed, fields, text, rest, rfl, hfields, hrest⟩ := exists_fieldsBytes behind
  obtain rfl | ⟨rfl, b, rest, rfl, hb⟩ := hrest
  · exact ⟨⟨[], ⟨gap, text, [], fields⟩⟩, by simp, ⟨hgap, .inr ⟨unclosed, hfields⟩, rfl⟩, heq.symm⟩
  · have htext : text ≠ [] := by
      rintro rfl
      have hnot := hbehind b rfl
      rw [hb] at hnot
      cases hnot
    obtain ⟨sheet, hlines, hlast, rfl⟩ := exists_sheet rest
    refine ⟨⟨⟨gap, text, [b], fields⟩ :: sheet.lines, sheet.last⟩, ?_, hlast, ?_⟩
    · exact List.forall_mem_cons.mpr ⟨⟨hgap, hfields, htext, b, hb, rfl⟩, hlines⟩
    · simp [heq, Line.bytes]
termination_by bytes.length
decreasing_by simp [heq]; omega

end Csv

end RoomDraw
