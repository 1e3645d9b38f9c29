import RoomDraw.Proofs.Csv.Scanning

/-!
# The scanner finds the records of any input

However bytes are laid out in records, the scanner hands over the complete ones, and places each of
them right behind the byte that ended the one before (`records_eq_placedRecords`). So there is only one
way in which bytes are laid out.
-/

namespace RoomDraw

namespace Csv

/-! ### Places -/

/-- The place behind bytes. -/
def Cursor.behind (c : Cursor) (bytes : Bytes) : Cursor :=
  ⟨c.byte + bytes.length, c.line + bytes.count lineFeed⟩

@[simp] lemma Cursor.behind_nil (c : Cursor) : c.behind [] = c := rfl

lemma Cursor.behind_cons (c : Cursor) (b : UInt8) (bytes : Bytes) :
    c.behind (b :: bytes) = (c.after b).behind bytes := by
  simp only [behind, after, List.length_cons, List.count_cons, Cursor.mk.injEq]
  constructor
  · omega
  · split_ifs <;> omega

lemma Cursor.behind_append (c : Cursor) (bytes bytes' : Bytes) :
    c.behind (bytes ++ bytes') = (c.behind bytes).behind bytes' := by
  simp [behind, Nat.add_assoc]

/-- The records of lines that stand one behind the other from a place on. A record is looked for
right behind the line before it; where the first one is looked for is given. -/
def placed : (opened cursor : Cursor) → List Line → List Record
  | _, _, [] => []
  | opened, cursor, line :: lines =>
    ⟨opened, line.fields⟩ :: placed (cursor.behind line.bytes) (cursor.behind line.bytes) lines

/-- The fields of records are those of their lines. -/
lemma map_fields_placed (opened cursor : Cursor) (lines : List Line) :
    (placed opened cursor lines).map (·.fields) = lines.map (·.fields) := by
  induction lines generalizing opened cursor with
  | nil => rfl
  | cons line lines ih => simp [placed, ih]

lemma placed_append (opened cursor : Cursor) (lines rest : List Line) :
    placed opened cursor (lines ++ rest) =
      placed opened cursor lines ++
        placed (if lines = [] then opened else cursor.behind (lines.flatMap Line.bytes))
          (cursor.behind (lines.flatMap Line.bytes)) rest := by
  induction lines generalizing opened cursor with
  | nil => rfl
  | cons line lines ih =>
    rw [List.cons_append, placed, ih, placed, List.flatMap_cons, Cursor.behind_append]
    cases lines <;> simp

/-- A record among those of lines is that of the line at its place. -/
lemma exists_of_placed_eq_append {opened cursor : Cursor} {lines : List Line} {before : List Record}
    {r : Record} {after : List Record} (h : placed opened cursor lines = before ++ r :: after) :
    ∃ before' line after', lines = before' ++ line :: after' ∧
      placed opened cursor before' = before ∧
      r = ⟨if before' = [] then opened else cursor.behind (before'.flatMap Line.bytes),
        line.fields⟩ := by
  induction before generalizing opened cursor lines with
  | nil =>
    cases lines with
    | nil => cases h
    | cons line lines =>
      obtain ⟨rfl, -⟩ := List.cons.inj h
      exact ⟨[], line, lines, rfl, rfl, rfl⟩
  | cons first before ih =>
    cases lines with
    | nil => cases h
    | cons line lines =>
      obtain ⟨rfl, htail⟩ := List.cons.inj h
      obtain ⟨before', line', after', rfl, rfl, rfl⟩ := ih htail
      refine ⟨line :: before', line', after', rfl, rfl, ?_⟩
      cases before' <;> simp [Cursor.behind_append]

namespace Scanner

lemma cursor_step (s : Scanner) (b : UInt8) : (s.step b).cursor = s.cursor.after b := by
  unfold step startField
  split <;> split_ifs <;> rfl

lemma cursor_foldl (s : Scanner) (bytes : Bytes) :
    (bytes.foldl step s).cursor = s.cursor.behind bytes := by
  induction bytes generalizing s with
  | nil => rfl
  | cons b bytes ih => rw [List.foldl_cons, ih, cursor_step, Cursor.behind_cons]

/-- A byte completes a record, or leaves the records as they are. -/
lemma step_cases (s : Scanner) (b : UInt8) :
    (s.step b).opened = s.opened ∧ (s.step b).records = s.records ∨
      s.step b = s.complete (s.cursor.after b) := by
  unfold step startField
  split <;> split_ifs <;> first | exact .inl ⟨rfl, rfl⟩ | exact .inr rfl

lemma size_records_complete (s : Scanner) (c : Cursor) :
    (s.complete c).records.size = s.records.size + 1 :=
  Array.size_push _

lemma size_records_le_step (s : Scanner) (b : UInt8) :
    s.records.size ≤ (s.step b).records.size := by
  obtain ⟨-, hrecords⟩ | hstep := s.step_cases b
  · rw [hrecords]
  · rw [hstep, size_records_complete]
    omega

lemma size_records_le_foldl (s : Scanner) (bytes : Bytes) :
    s.records.size ≤ (bytes.foldl step s).records.size := by
  induction bytes generalizing s with
  | nil => exact le_rfl
  | cons b bytes ih => exact (s.size_records_le_step b).trans (ih _)

/-- As long as no record is completed, the place of the one that is read stays. -/
lemma foldl_kept {s : Scanner} {bytes : Bytes}
    (h : (bytes.foldl step s).records.size = s.records.size) :
    (bytes.foldl step s).opened = s.opened ∧ (bytes.foldl step s).records = s.records := by
  induction bytes generalizing s with
  | nil => exact ⟨rfl, rfl⟩
  | cons b bytes ih =>
    have hle := size_records_le_foldl (s.step b) bytes
    rw [List.foldl_cons] at h ⊢
    obtain ⟨hopened, hrecords⟩ | hstep := s.step_cases b
    · rw [← hopened, ← hrecords]
      exact ih (by rw [h, hrecords])
    · rw [h, hstep, size_records_complete] at hle
      omega

lemma Shows.size_records {s : Scanner} {mode : Mode} {done : List (List Bytes)}
    {fields : List Bytes} {field : Bytes} (h : s.Shows mode done fields field) :
    s.records.size = done.length := by
  rw [← h.done_eq]
  simp

/-! ### All records -/

/-- The scanner has these records, and is at a place behind them. It looks for the next one from a
place on that may lie before it. -/
structure Ready (s : Scanner) (done : List Record) (opened cursor : Cursor) : Prop where
  shows : s.Shows .between (done.map (·.fields)) [] []
  records_eq : s.records.toList = done
  opened_eq : s.opened = opened
  cursor_eq : s.cursor = cursor

namespace Ready

variable {s : Scanner} {done : List Record} {opened cursor : Cursor}

lemma init (skipped : Nat) : (Scanner.init skipped).Ready [] .start ⟨skipped, 1⟩ :=
  ⟨.init skipped, rfl, rfl, rfl⟩

/-- Nothing is completed before the end of a record. -/
lemma kept (h : s.Ready done opened cursor) {mode : Mode} {fields : List Bytes}
    {field bytes : Bytes}
    (hshows : (bytes.foldl step s).Shows mode (done.map (·.fields)) fields field) :
    (bytes.foldl step s).opened = opened ∧ (bytes.foldl step s).records.toList = done := by
  obtain ⟨hopened, hrecords⟩ :=
    foldl_kept (hshows.size_records.trans h.shows.size_records.symm)
  exact ⟨hopened.trans h.opened_eq, by rw [hrecords, h.records_eq]⟩

/-- What the scanner is at behind the bytes of a record. -/
lemma foldl_text (h : s.Ready done opened cursor) {unclosed : Bool} {values : List Bytes}
    {gap text : Bytes} (hgap : ∀ b ∈ gap, endsRecord b = true)
    (htext : FieldsBytes unclosed values text) :
    ∃ next fields' field,
      ((gap ++ text).foldl step s).Shows next (done.map (·.fields)) fields' field ∧
      fields' ++ [field] = values ∧ (unclosed = false → next ≠ .quoted) ∧
      (next = .between → text = []) := by
  obtain ⟨next, fields', field, hshows, hfields, hquoted, hbetween⟩ :=
    (h.shows.foldl_between hgap).foldl_fieldsBytes htext (.inl rfl)
  rw [← List.foldl_append] at hshows
  exact ⟨next, fields', field, hshows, hfields, hquoted, fun hnext => (hbetween hnext).2⟩

lemma complete {s : Scanner} {mode : Mode} {fields : List Bytes} {field : Bytes}
    (h : s.Shows mode (done.map (·.fields)) fields field) (hopened : s.opened = opened)
    (hrecords : s.records.toList = done) (place : Cursor) :
    (s.complete place).Ready (done ++ [⟨opened, fields ++ [field]⟩]) place place := by
  refine ⟨by simpa using h.complete place, ?_, rfl, rfl⟩
  simp [Scanner.complete, hrecords, hopened, h.fields_eq, h.field_eq]

lemma line (h : s.Ready done opened cursor) {line : Line} (hline : line.Ended) :
    (line.bytes.foldl step s).Ready (done ++ [⟨opened, line.fields⟩]) (cursor.behind line.bytes)
      (cursor.behind line.bytes) := by
  obtain ⟨next, fields', field, hshows, hfields, hquoted, hbetween⟩ :=
    h.foldl_text hline.gap hline.text
  obtain ⟨b, hb, hclose⟩ := hline.close
  have hbytes : line.bytes = (line.gap ++ line.text) ++ [b] := by
    rw [Line.bytes, hclose, List.append_assoc]
  obtain ⟨hopened, hrecords⟩ := h.kept hshows
  have hstep := hshows.step_eq_complete (hquoted rfl)
    (fun hnext => hline.text_ne (hbetween hnext)) hb
  have hcursor := s.cursor_foldl line.bytes
  rw [hbytes, List.foldl_append, List.foldl_cons, List.foldl_nil] at hcursor ⊢
  rw [← h.cursor_eq, ← hcursor, ← hfields, hstep]
  exact complete hshows hopened hrecords _

lemma lines {lines : List Line} (hlines : ∀ line ∈ lines, line.Ended) {s : Scanner}
    (h : s.Ready done opened cursor) :
    ((lines.flatMap Line.bytes).foldl step s).Ready (done ++ placed opened cursor lines)
      (if lines = [] then opened else cursor.behind (lines.flatMap Line.bytes))
      (cursor.behind (lines.flatMap Line.bytes)) := by
  induction lines generalizing s done opened cursor with
  | nil => simpa [placed] using h
  | cons line lines ih =>
    have hready := ih (fun line' hline' => hlines line' (by simp [hline']))
      (h.line (hlines line (by simp)))
    rw [List.flatMap_cons, List.foldl_append, Cursor.behind_append]
    cases lines <;> simpa [placed] using hready

/-- What is begun is completed by the end of the input only. -/
lemma last (h : s.Ready done opened cursor) {line : Line} (hline : line.Unended) :
    (line.bytes.foldl step s).records.toList = done ∧
      (line.bytes.foldl step s).finish.records.toList =
        done ++ placed opened cursor (if line.text = [] then [] else [line]) := by
  have hbytes : line.bytes = line.gap ++ line.text := by simp [Line.bytes, hline.close]
  rw [hbytes]
  by_cases htext : line.text = []
  · have hshows := h.shows.foldl_between hline.gap
    have hrecords := (h.kept hshows).2
    have hfinish : (line.gap.foldl step s).finish = line.gap.foldl step s := by
      rw [finish, hshows.mode_eq]
    simp [htext, hfinish, hrecords, placed]
  · obtain hnil | ⟨unclosed, hfields⟩ := hline.text
    · exact absurd hnil htext
    obtain ⟨next, fields', field, hshows, hvalues, -, hbetween⟩ := h.foldl_text hline.gap hfields
    obtain ⟨hopened, hrecords⟩ := h.kept hshows
    rw [hshows.finish_eq_complete fun hnext => htext (hbetween hnext)]
    refine ⟨hrecords, ?_⟩
    rw [(complete hshows hopened hrecords _).records_eq, if_neg htext, hvalues, placed, placed]

end Ready

end Scanner

end Csv

/-! ### The records of a feed -/

namespace Feed

/-- The bytes behind a byte-order mark that is dropped. -/
def content (feed : Feed) : Bytes := feed.bytes.drop feed.markLength

end Feed

namespace Csv

/-- The records of a feed in the sheet of its bytes. The first one is looked for from the very
front on, before a mark that is dropped. -/
def Sheet.placedRecords (sheet : Sheet) (feed : Feed) : List Record :=
  placed .start ⟨feed.markLength, 1⟩ (sheet.records feed.ending)

lemma records_eq_placedRecords {feed : Feed} {sheet : Sheet} (h : sheet.Of feed.content) :
    Csv.records feed = sheet.placedRecords feed := by
  have hready := (Scanner.Ready.init feed.markLength).lines h.lines
  obtain ⟨hrecords, hfinish⟩ := hready.last h.last
  rw [← List.foldl_append, h.bytes_eq] at hrecords hfinish
  cases hending : feed.ending with
  | complete =>
    simp only [Csv.records, Sheet.placedRecords, hending, Sheet.records, placed_append]
    exact hfinish
  | failed message =>
    simp only [Csv.records, Sheet.placedRecords, hending, Sheet.records]
    exact hrecords

end Csv

end RoomDraw
