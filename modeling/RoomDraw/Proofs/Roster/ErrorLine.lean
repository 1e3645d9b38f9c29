import RoomDraw.Proofs.Roster.Faults

/-!
# The line of an error

A record is looked for right behind the line end before it, and the line of that place is reported.
The record itself may begin further down: the line feed of a `\r\n` and lines without any character
stand between. So many lines is the line of an error too small (`line_of_error`).
-/

namespace RoomDraw

namespace Roster

open Csv

/-- The number of the line on which a record starts, behind others, when the line feeds before it
are counted. -/
def startLine (before : List Line) (line : Line) : Nat :=
  1 + (before.flatMap Line.bytes ++ line.gap).count lineFeed

/-- The first record at fault, behind those that are not. -/
inductive Blamed : List Line → Line → Prop where
  | header {bad} (h : ∃ field ∈ bad.fields, Utf8.decode? field = none) : Blamed [] bad
  | row {first good bad} {header : List String} (hheader : first.fields = header.map Utf8.encode)
      (hcolumn : usernameColumn ∈ header)
      (hgood : ∀ line ∈ good, ∃ user, Names header line.fields user)
      (hbad : ∀ user, ¬Names header bad.fields user) : Blamed (first :: good) bad

lemma RowFault.not_names {header : List String} {number : Nat} {r : Record} {fault : Fault}
    (h : RowFault header number r fault) (user : String) : ¬Names header r.fields user := by
  intro hnames
  have huser := rowUser_of_names hnames number
  rw [rowUser_of_rowFault h] at huser
  cases huser

lemma NamesAll.exists_of_mem {header : List String} {rows : List Record} {users : List String}
    (h : NamesAll header rows users) : ∀ r ∈ rows, ∃ user, Names header r.fields user := by
  induction h with
  | nil => simp
  | cons huser _ ih => exact List.forall_mem_cons.mpr ⟨⟨_, huser⟩, ih⟩

/-- Where the record of a line is looked for. -/
lemma line_opened (skipped : Nat) (before : List Line) :
    (if before = [] then Cursor.start
      else (⟨skipped, 1⟩ : Cursor).behind (before.flatMap Line.bytes)).line =
        1 + (before.flatMap Line.bytes).count lineFeed := by
  split_ifs with hnil
  · simp [hnil, Cursor.start]
  · rfl

/-- The first record at fault among those of lines, and the line that is reported for it. -/
lemma exists_blamed {skipped : Nat} {lines : List Line} {line : Nat} {message : String}
    (h : Outcome .complete (placed .start ⟨skipped, 1⟩ lines) (.error (.badRow line message))) :
    ∃ before bad after, lines = before ++ bad :: after ∧ Blamed before bad ∧
      line = 1 + (before.flatMap Line.bytes).count lineFeed := by
  generalize hrecords : placed .start ⟨skipped, 1⟩ lines = records at h
  cases h with
  | @badHeader _ _ _ field rest texts hfields hbad =>
    obtain ⟨before, bad, after, rfl, hbefore, rfl⟩ :=
      exists_of_placed_eq_append (show _ = [] ++ _ from hrecords)
    cases before with
    | nil =>
      have hfields : bad.fields = texts.map Utf8.encode ++ field :: rest := hfields
      exact ⟨[], bad, after, rfl, .header ⟨field, by simp [hfields], hbad⟩, rfl⟩
    | cons => cases hbefore
  | @badRow _ first good users bad rest fault header hheader hcolumn hgood hbad =>
    obtain ⟨before, bad, after, rfl, hbefore, rfl⟩ :=
      exists_of_placed_eq_append (show _ = (first :: good) ++ _ from hrecords)
    cases before with
    | nil => cases hbefore
    | cons line before =>
      obtain ⟨rfl, rfl⟩ := List.cons.inj hbefore
      refine ⟨_, _, _, rfl, .row hheader hcolumn ?_ hbad.not_names, line_opened _ _⟩
      intro line' hline'
      have hfields : line'.fields ∈ (before.map (·.fields)) := List.mem_map_of_mem hline'
      rw [← map_fields_placed] at hfields
      obtain ⟨r, hr, hrfields⟩ := List.mem_map.mp hfields
      exact hrfields ▸ hgood.exists_of_mem r hr

/-- The line of an error is that on which the first record at fault starts, less the line feeds
that stand between the end of the record before it and itself. -/
theorem line_of_error {text : String} {line : Nat} {message : String}
    (h : ofCsv text = .error (.badRow line message)) {sheet : Sheet}
    (hsheet : sheet.Of (Feed.ofBytes (Utf8.encode text)).content) :
    ∃ before bad after, sheet.records .complete = before ++ bad :: after ∧ Blamed before bad ∧
      line + bad.gap.count lineFeed = startLine before bad ∧
      (line = startLine before bad ↔ lineFeed ∉ bad.gap) := by
  have hmark : (Feed.ofBytes (Utf8.encode text)).chunks.head? ≠ some Feed.byteOrderMark := by
    intro hmark
    rw [ofCsv, ofFeed_of_mark hmark] at h
    cases h
  have houtcome := (ofFeed_eq_iff hmark).mp h
  rw [records_eq_placedRecords hsheet] at houtcome
  obtain ⟨before, bad, after, hlines, hblamed, rfl⟩ := exists_blamed houtcome
  have hstart : 1 + (before.flatMap Line.bytes).count lineFeed + bad.gap.count lineFeed =
      startLine before bad := by
    rw [startLine, List.count_append, Nat.add_assoc]
  refine ⟨before, bad, after, hlines, hblamed, hstart, ?_⟩
  rw [← hstart, ← List.count_eq_zero]
  omega

theorem line_of_error_of_crlf :
    ∃ (line : Nat) (message : String) (sheet : Sheet) (before : List Line) (bad : Line)
      (after : List Line),
      ofCsv "username\r\nann,x\n" = .error (.badRow line message) ∧
      sheet.Of (Feed.ofBytes (Utf8.encode "username\r\nann,x\n")).content ∧
      sheet.records .complete = before ++ bad :: after ∧ Blamed before bad ∧
      line + bad.gap.count lineFeed = startLine before bad := by
  obtain ⟨sheet, hsheet⟩ :=
    exists_sheet (Feed.ofBytes (Utf8.encode "username\r\nann,x\n")).content
  obtain ⟨message, herror⟩ :
      ∃ message, ofCsv "username\r\nann,x\n" = .error (.badRow 1 message) := ⟨_, rfl⟩
  obtain ⟨before, bad, after, hlines, hblamed, hline, -⟩ := line_of_error herror hsheet
  exact ⟨1, message, sheet, before, bad, after, herror, hsheet, hlines, hblamed, hline⟩

/-- Behind a line that ends in `\r\n`, the line of an error is not that of the record at fault. -/
theorem line_of_error_ne_startLine :
    ¬∀ (text : String) (line : Nat) (message : String) (sheet : Sheet) (before : List Line)
      (bad : Line) (after : List Line), ofCsv text = .error (.badRow line message) →
      sheet.Of (Feed.ofBytes (Utf8.encode text)).content →
      sheet.records .complete = before ++ bad :: after → Blamed before bad →
      line = startLine before bad := by
  intro h
  let header : Line := ⟨[], Utf8.encode "username", [carriageReturn], [Utf8.encode "username"]⟩
  let bad : Line :=
    ⟨[lineFeed], Utf8.encode "ann,x", [lineFeed], [Utf8.encode "ann", Utf8.encode "x"]⟩
  have hheader : header.Ended :=
    ⟨by simp [header], .last (.bare ⟨by decide +kernel, by decide⟩), by decide, _, rfl, rfl⟩
  have hbad : bad.Ended :=
    ⟨by simp [bad, endsRecord], .cons (.bare ⟨by decide +kernel, by decide⟩)
      (.last (.bare ⟨by decide +kernel, by decide⟩)), by decide, _, rfl, rfl⟩
  have hsheet : (⟨[header, bad], ⟨[], [], [], []⟩⟩ : Sheet).Of
      (Feed.ofBytes (Utf8.encode "username\r\nann,x\n")).content :=
    ⟨by simp [hheader, hbad], ⟨by simp, .inl rfl, rfl⟩, by decide⟩
  have hblamed : Blamed [header] bad := by
    have hheader : header.fields = ["username"].map Utf8.encode := rfl
    refine .row hheader (by decide) (by simp) ?_
    rintro user ⟨row, hrow, hfits, -⟩
    have hlength : row.length = 2 := by simpa [bad] using (congrArg List.length hrow).symm
    have hone := hfits.1
    simp [hlength] at hone
  have hline := h _ 1 _ _ [header] bad [] rfl hsheet rfl hblamed
  exact absurd hline (by decide)

end Roster

end RoomDraw
