import RoomDraw.Csv.Scanner
import RoomDraw.Proofs.Csv.Sheet

/-!
# What the scanner is at

What the scanner is in the middle of is told by `Shows`, which leaves out the places in the input.
The bytes of a field take it from the front of the field to behind the field, and those of a record
from between two records to where the record only waits for its end.
-/

namespace RoomDraw

namespace Csv

/-- A byte that a field may begin with outside quotes. -/
def Plain (b : UInt8) : Prop := b ≠ quote ∧ b ≠ comma ∧ endsRecord b = false

lemma endsRecord_eq_true_iff {b : UInt8} :
    endsRecord b = true ↔ b = lineFeed ∨ b = carriageReturn := by
  simp [endsRecord]

/-! ### What the scanner shows -/

/-- What the scanner is in the middle of, and what it has of it. -/
structure Scanner.Shows (s : Scanner) (mode : Mode) (done : List (List Bytes))
    (fields : List Bytes) (field : Bytes) : Prop where
  mode_eq : s.mode = mode
  done_eq : s.records.toList.map (·.fields) = done
  fields_eq : s.fields.toList = fields
  field_eq : s.field.toList = field

namespace Scanner.Shows

variable {s : Scanner} {mode : Mode} {done : List (List Bytes)} {fields : List Bytes}
  {field : Bytes} {b : UInt8}

lemma init (skipped : Nat) : (Scanner.init skipped).Shows .between [] [] [] := ⟨rfl, rfl, rfl, rfl⟩

lemma push (h : s.Shows mode done fields field) (next : Mode) (b : UInt8) :
    (s.push next b).Shows next done fields (field ++ [b]) :=
  ⟨rfl, h.done_eq, h.fields_eq, by simp [Scanner.push, h.field_eq]⟩

lemma pass (h : s.Shows mode done fields field) (next : Mode) (b : UInt8) :
    (s.pass next b).Shows next done fields field :=
  ⟨rfl, h.done_eq, h.fields_eq, h.field_eq⟩

lemma endField (h : s.Shows mode done fields field) (b : UInt8) :
    (s.endField b).Shows .fieldStart done (fields ++ [field]) [] :=
  ⟨rfl, h.done_eq, by simp [Scanner.endField, h.fields_eq, h.field_eq], rfl⟩

lemma complete (h : s.Shows mode done fields field) (place : Cursor) :
    (s.complete place).Shows .between (done ++ [fields ++ [field]]) [] [] :=
  ⟨rfl, by simp [Scanner.complete, h.done_eq, h.fields_eq, h.field_eq], rfl, rfl⟩

/-! ### One byte -/

lemma step_plain (h : s.Shows mode done fields field) (hmode : mode ≠ .quoted)
    (hb : Plain b) : (s.step b).Shows .bare done fields (field ++ [b]) := by
  obtain ⟨hquote, hcomma, hends⟩ := hb
  have hstep : s.step b = s.push .bare b := by
    rw [Scanner.step, h.mode_eq]
    cases mode <;> simp_all [Scanner.startField]
  exact hstep ▸ h.push .bare b

lemma step_bare (h : s.Shows .bare done fields field) (hb : Bare b) :
    (s.step b).Shows .bare done fields (field ++ [b]) := by
  have hstep : s.step b = s.push .bare b := by
    simp [Scanner.step, h.mode_eq, hb.1, hb.2]
  exact hstep ▸ h.push .bare b

lemma step_quote (h : s.Shows mode done fields field)
    (hmode : mode = .between ∨ mode = .fieldStart) :
    (s.step quote).Shows .quoted done fields field := by
  have hstep : s.step quote = s.pass .quoted quote := by
    rw [Scanner.step, h.mode_eq]
    rcases hmode with rfl | rfl <;> rfl
  exact hstep ▸ h.pass .quoted quote

lemma step_quoted (h : s.Shows .quoted done fields field) (hb : b ≠ quote) :
    (s.step b).Shows .quoted done fields (field ++ [b]) := by
  have hstep : s.step b = s.push .quoted b := by
    simp [Scanner.step, h.mode_eq, hb]
  exact hstep ▸ h.push .quoted b

lemma step_closing (h : s.Shows .quoted done fields field) :
    (s.step quote).Shows .quoteSeen done fields field := by
  have hstep : s.step quote = s.pass .quoteSeen quote := by
    simp [Scanner.step, h.mode_eq]
  exact hstep ▸ h.pass .quoteSeen quote

/-- Two quotes inside a quoted field are one. -/
lemma step_doubled (h : s.Shows .quoted done fields field) :
    ((s.step quote).step quote).Shows .quoted done fields (field ++ [quote]) := by
  have hseen := h.step_closing
  have hstep : (s.step quote).step quote = (s.step quote).push .quoted quote := by
    rw [Scanner.step, hseen.mode_eq]
    rfl
  exact hstep ▸ hseen.push .quoted quote

lemma step_comma (h : s.Shows mode done fields field) (hmode : mode ≠ .quoted) :
    (s.step comma).Shows .fieldStart done (fields ++ [field]) [] := by
  have hstep : s.step comma = s.endField comma := by
    rw [Scanner.step, h.mode_eq]
    cases mode
    case quoted => exact absurd rfl hmode
    all_goals rfl
  exact hstep ▸ h.endField comma

/-- Outside quotes the end of a line completes a record that has begun. -/
lemma step_eq_complete (h : s.Shows mode done fields field) (hquoted : mode ≠ .quoted)
    (hbetween : mode ≠ .between) (hb : endsRecord b = true) :
    s.step b = s.complete (s.cursor.after b) := by
  rw [Scanner.step, h.mode_eq]
  rcases endsRecord_eq_true_iff.mp hb with rfl | rfl <;> cases mode
  case inl.between | inr.between => exact absurd rfl hbetween
  case inl.quoted | inr.quoted => exact absurd rfl hquoted
  all_goals rfl

lemma step_between (h : s.Shows .between done fields field) (hb : endsRecord b = true) :
    (s.step b).Shows .between done fields field := by
  have hstep : s.step b = s.pass .between b := by
    simp [Scanner.step, h.mode_eq, hb]
  exact hstep ▸ h.pass .between b

/-- The end of the input completes a record that has begun. -/
lemma finish_eq_complete (h : s.Shows mode done fields field) (hbetween : mode ≠ .between) :
    s.finish = s.complete s.cursor := by
  rw [Scanner.finish, h.mode_eq]
  cases mode
  case between => exact absurd rfl hbetween
  all_goals rfl

lemma foldl_between (h : s.Shows .between done fields field) {bytes : Bytes}
    (hbytes : ∀ b ∈ bytes, endsRecord b = true) :
    (bytes.foldl Scanner.step s).Shows .between done fields field := by
  induction bytes generalizing s with
  | nil => exact h
  | cons b bytes ih =>
    exact ih (h.step_between (hbytes b (by simp))) fun b' hb' => hbytes b' (by simp [hb'])

/-! ### A field -/

lemma foldl_bare (h : s.Shows .bare done fields field) {bytes : Bytes}
    (hbytes : ∀ b ∈ bytes, Bare b) :
    (bytes.foldl Scanner.step s).Shows .bare done fields (field ++ bytes) := by
  induction bytes generalizing s field with
  | nil => simpa using h
  | cons b bytes ih =>
    have hnext := ih (h.step_bare (hbytes b (by simp))) fun b' hb' => hbytes b' (by simp [hb'])
    simpa using hnext

lemma foldl_loose (h : s.Shows mode done fields field) (hmode : mode ≠ .quoted) {bytes : Bytes}
    (hbytes : Loose bytes) :
    (bytes.foldl Scanner.step s).Shows (if bytes = [] then mode else .bare) done fields
      (field ++ bytes) := by
  cases bytes with
  | nil => simpa using h
  | cons b bytes =>
    have hb := hbytes.bare b (by simp)
    have hplain : Plain b := ⟨by simpa using hbytes.unquoted, hb.1, hb.2⟩
    have hrest : ∀ b' ∈ bytes, Bare b' := fun b' hb' => hbytes.bare b' (by simp [hb'])
    simpa using (h.step_plain hmode hplain).foldl_bare hrest

lemma foldl_doubled (h : s.Shows .quoted done fields field) (inside : Bytes) :
    ((doubled inside).foldl Scanner.step s).Shows .quoted done fields (field ++ inside) := by
  induction inside generalizing s field with
  | nil => simpa using h
  | cons b inside ih =>
    by_cases hb : b = quote
    · subst hb
      simpa [doubled_quote] using ih h.step_doubled
    · simpa [doubled_cons hb] using ih (h.step_quoted hb)

/-- Behind the bytes of a field the scanner has the field. It is still before a record only if there
was nothing to see. -/
lemma foldl_fieldBytes (h : s.Shows mode done fields [])
    (hmode : mode = .between ∨ mode = .fieldStart) {value bytes : Bytes}
    (hbytes : FieldBytes value bytes) :
    ∃ next, (bytes.foldl Scanner.step s).Shows next done fields value ∧ next ≠ .quoted ∧
      (next = .between → mode = .between ∧ bytes = []) := by
  have hquoted : mode ≠ .quoted := by rcases hmode with rfl | rfl <;> decide
  cases hbytes with
  | bare hloose =>
    refine ⟨_, h.foldl_loose hquoted hloose, ?_, ?_⟩ <;> split_ifs <;> simp_all
  | @quoted inside rest hrest =>
    have hclosed := ((h.step_quote hmode).foldl_doubled inside).step_closing
    have hshows := hclosed.foldl_loose (by decide) hrest
    refine ⟨if rest = [] then .quoteSeen else .bare, ?_, ?_, ?_⟩
    · simpa using hshows
    · split_ifs <;> decide
    · split_ifs <;> simp

/-! ### A record -/

/-- Behind the bytes of fields the scanner has all of them, the last one unfinished. -/
lemma foldl_fieldsBytes {unclosed : Bool} {values : List Bytes} {bytes : Bytes}
    (hbytes : FieldsBytes unclosed values bytes) {s : Scanner} {mode : Mode} {fields : List Bytes}
    (h : s.Shows mode done fields []) (hmode : mode = .between ∨ mode = .fieldStart) :
    ∃ next fields' field, (bytes.foldl Scanner.step s).Shows next done fields' field ∧
      fields' ++ [field] = fields ++ values ∧ (unclosed = false → next ≠ .quoted) ∧
      (next = .between → mode = .between ∧ bytes = []) := by
  induction hbytes generalizing s mode fields with
  | last hfield =>
    obtain ⟨next, hshows, hquoted, hbetween⟩ := h.foldl_fieldBytes hmode hfield
    exact ⟨next, fields, _, hshows, rfl, fun _ => hquoted, hbetween⟩
  | unclosed =>
    exact ⟨.quoted, fields, _, (h.step_quote hmode).foldl_doubled _, rfl, by simp, by simp⟩
  | cons hfield _ ih =>
    obtain ⟨next, hshows, hquoted, -⟩ := h.foldl_fieldBytes hmode hfield
    obtain ⟨next', fields', field, hshows', hfields, hquoted', hbetween'⟩ :=
      ih (hshows.step_comma hquoted) (.inr rfl)
    refine ⟨next', fields', field, ?_, by simp [hfields], hquoted', ?_⟩
    · rw [List.foldl_append]
      exact hshows'
    · intro hnext
      cases (hbetween' hnext).1

end Scanner.Shows

end Csv

end RoomDraw
