import Mathlib.Data.List.Basic
import RoomDraw.Proofs.Csv.Tables
import RoomDraw.Roster.Decoding

/-!
# The roster of a table

The users of a table are the fields of its column of users, row by row, however the table is
written.
-/

namespace RoomDraw

namespace Roster

open Csv

/-! ### One row -/

lemma decodeFields_encode (place : Position) (index : Nat) (fields : List String) :
    decodeFields place index (fields.map Utf8.encode) = .ok fields := by
  induction fields generalizing index with
  | nil => rfl
  | cons field fields ih =>
    rw [List.map_cons, decodeFields, Utf8.decode?_encode]
    simp only [ih]
    rfl

lemma decode_of_fields_eq {r : Record} {row : List String} (h : r.fields = row.map Utf8.encode)
    (number : Nat) : r.decode number = .ok row := by
  rw [Record.decode, h, decodeFields_encode]

variable {header row : List String}

/-- As many fields of a row stand in columns of a name as there are such columns. -/
lemma length_filter_zip (hlength : row.length = header.length) (column : String) :
    ((header.zip row).filter (·.1 == column)).length = header.count column := by
  have hfst : (header.zip row).map Prod.fst = header := List.map_fst_zip (Nat.le_of_eq hlength.symm)
  rw [← List.countP_eq_length_filter, ← hfst, List.count, List.countP_map, hfst]
  rfl

/-- The field of a row in the only column of a name is the one at the place of that column. -/
lemma filter_zip_eq_singleton {column : String} (hlength : row.length = header.length)
    (hcount : header.count column = 1) :
    ∃ field, row[header.idxOf column]? = some field ∧
      (header.zip row).filter (·.1 == column) = [(column, field)] := by
  induction header generalizing row with
  | nil => simp at hcount
  | cons name header ih =>
    obtain ⟨field, row, rfl⟩ := List.exists_cons_of_length_eq_add_one hlength
    have hlength' : row.length = header.length := by simpa using hlength
    by_cases hname : name = column
    · subst hname
      have hnil : (header.zip row).filter (·.1 == name) = [] := by
        rw [← List.length_eq_zero_iff, length_filter_zip hlength']
        simpa using hcount
      exact ⟨field, by simp, by simp [hnil]⟩
    · obtain ⟨user, hget, hfilter⟩ := ih hlength' (by simpa [hname] using hcount)
      exact ⟨user, by simpa [List.idxOf_cons_ne _ hname] using hget, by simpa [hname] using hfilter⟩

/-- The row has as many fields as the header, and one of them is the user. -/
def Fits (header row : List String) : Prop :=
  row.length = header.length ∧ header.count usernameColumn = 1

lemma rowUser_of_fits (h : Fits header row) {r : Record} (hr : r.fields = row.map Utf8.encode)
    (number : Nat) :
    ∃ user, row[header.idxOf usernameColumn]? = some user ∧ rowUser header number r = .ok user := by
  obtain ⟨user, hget, hfilter⟩ := filter_zip_eq_singleton h.1 h.2
  refine ⟨user, hget, ?_⟩
  have hlength : ¬r.fields.length ≠ header.length := by simp [hr, h.1]
  rw [rowUser, if_neg hlength, decode_of_fields_eq hr]
  simp only [bind, Except.bind, hfilter]
  rfl

/-- Among several columns of users, none is taken. -/
lemma rowUser_of_count_ne_one (hlength : row.length = header.length)
    (hcount : header.count usernameColumn ≠ 1) {r : Record} (hr : r.fields = row.map Utf8.encode)
    (number : Nat) :
    rowUser header number r = .error (.repeatedColumn ⟨number, r.position⟩ usernameColumn) := by
  rw [rowUser, if_neg (by simp [hr, hlength]), decode_of_fields_eq hr]
  simp only [bind, Except.bind]
  split
  · next user hfilter =>
    have hone := length_filter_zip hlength usernameColumn
    rw [hfilter] at hone
    exact absurd hone.symm hcount
  · rfl

lemma rowUser_of_not_fits (h : ¬Fits header row) {r : Record} (hr : r.fields = row.map Utf8.encode)
    (number : Nat) : ∃ fault, rowUser header number r = .error fault := by
  by_cases hlength : r.fields.length ≠ header.length
  · exact ⟨_, if_pos hlength⟩
  · have hlength' : row.length = header.length := by simpa [hr] using hlength
    exact ⟨_, rowUser_of_count_ne_one hlength' (fun hcount => h ⟨hlength', hcount⟩) hr number⟩

/-! ### All rows -/

lemma decodeRows_of_fits {rows : List (List String)} (h : ∀ row ∈ rows, Fits header row)
    {records : List Record} (hrecords : records.map (·.fields) = rows.map (·.map Utf8.encode))
    (number : Nat) (users : Array String) :
    ∃ found : List String, found.map some = rows.map (·[header.idxOf usernameColumn]?) ∧
      decodeRows header .complete number users records = ⟨users ++ found.toArray, none⟩ := by
  induction rows generalizing records number users with
  | nil =>
    obtain rfl : records = [] := by simpa using hrecords
    exact ⟨[], rfl, by simp [decodeRows]⟩
  | cons row rows ih =>
    obtain ⟨r, records, rfl, hr, hrecords⟩ := List.map_eq_cons_iff.mp hrecords
    obtain ⟨user, hget, huser⟩ := rowUser_of_fits (h row (by simp)) hr number
    obtain ⟨found, hfound, hdecode⟩ :=
      ih (fun row' hrow' => h row' (by simp [hrow'])) hrecords (number + 1) (users.push user)
    refine ⟨user :: found, by simp [hget, hfound], ?_⟩
    rw [decodeRows, huser]
    simp [hdecode]

lemma decodeRows_of_not_fits {rows : List (List String)} (h : ∃ row ∈ rows, ¬Fits header row)
    {records : List Record} (hrecords : records.map (·.fields) = rows.map (·.map Utf8.encode))
    (ending : FeedEnd) (number : Nat) (users : Array String) :
    ∃ line message,
      (decodeRows header ending number users records).error = some (.badRow line message) := by
  induction rows generalizing records number users with
  | nil => simp at h
  | cons row rows ih =>
    obtain ⟨r, records, rfl, hr, hrecords⟩ := List.map_eq_cons_iff.mp hrecords
    rw [decodeRows]
    rcases huser : rowUser header number r with fault | user
    -- the first row that cannot be taken ends the reading, whether it is the one given or not
    · exact ⟨fault.line, fault.message, rfl⟩
    · have hfits : Fits header row := by
        by_contra hnot
        obtain ⟨fault, hfault⟩ := rowUser_of_not_fits hnot hr number
        rw [hfault] at huser
        cases huser
      obtain ⟨row', hrow', hnot⟩ := h
      rcases List.mem_cons.mp hrow' with rfl | hrow'
      · exact absurd hfits hnot
      · exact ih ⟨row', hrow', hnot⟩ hrecords (number + 1) (users.push user)

/-! ### A table -/

/-- Some row cannot be taken: it has more fields or fewer than the header, or there are several
columns of users. -/
def Misfits (header : List String) (rows : List (List String)) : Prop :=
  (∃ row ∈ rows, row.length ≠ header.length) ∨ 1 < header.count usernameColumn ∧ rows ≠ []

instance (header : List String) (rows : List (List String)) : Decidable (Misfits header rows) :=
  inferInstanceAs (Decidable (_ ∨ _))

lemma misfits_iff {rows : List (List String)} (h : usernameColumn ∈ header) :
    Misfits header rows ↔ ∃ row ∈ rows, ¬Fits header row := by
  have hcount := List.count_pos_iff.mpr h
  constructor
  · rintro (⟨row, hrow, hlength⟩ | ⟨hmany, hrows⟩)
    · exact ⟨row, hrow, fun hfits => hlength hfits.1⟩
    · obtain ⟨row, hrow⟩ := List.exists_mem_of_ne_nil rows hrows
      exact ⟨row, hrow, fun hfits => by have := hfits.2; omega⟩
  · rintro ⟨row, hrow, hnot⟩
    by_cases hlength : row.length = header.length
    · have hne : header.count usernameColumn ≠ 1 := fun hone => hnot ⟨hlength, hone⟩
      exact .inr ⟨by omega, List.ne_nil_of_mem hrow⟩
    · exact .inl ⟨row, hrow, hlength⟩

/-- The scanner hands the table over as it was before it was written. -/
lemma decode_of_tableText {rows : List (List String)} {text : List Char}
    (h : TableText (header :: rows) text) :
    ∃ records : List Record, records.map (·.fields) = rows.map (·.map Utf8.encode) ∧
      decode (.ofBytes (Utf8.ofChars text)) =
        if usernameColumn ∈ header then decodeRows header .complete 1 #[] records
        else ⟨#[], some .missingColumn⟩ := by
  obtain ⟨r, records, hcons, hr, hrecords⟩ := List.map_eq_cons_iff.mp (records_ofBytes h)
  refine ⟨records, hrecords, ?_⟩
  rw [decode, effective_ofBytes h.2, hcons]
  simp only [decode_of_fields_eq hr, List.contains_iff_mem]
  rfl

/-- However a table is written, its roster is its column of users, top to bottom. It has none if
there is no such column, or if some row cannot be taken. -/
theorem ofCsv_eq_of_tableText {header : List String} {rows : List (List String)} {text : String}
    (h : TableText (header :: rows) text.toList) :
    (usernameColumn ∉ header → ofCsv text = .error .missingColumn) ∧
    (usernameColumn ∈ header → Misfits header rows →
      ∃ line message, ofCsv text = .error (.badRow line message)) ∧
    (usernameColumn ∈ header → ¬Misfits header rows →
      ∃ users, ofCsv text = .ok (.ofList users) ∧
        users.map some = rows.map (·[header.idxOf usernameColumn]?)) := by
  obtain ⟨records, hrecords, hdecode⟩ := decode_of_tableText h
  rw [ofCsv, ofFeed, Utf8.encode_eq_ofChars, hdecode]
  refine ⟨?_, ?_, ?_⟩
  · intro hmissing
    rw [if_neg hmissing]
    rfl
  · intro hcolumn hmisfits
    obtain ⟨line, message, herror⟩ :=
      decodeRows_of_not_fits ((misfits_iff hcolumn).mp hmisfits) hrecords .complete 1 #[]
    rw [if_pos hcolumn, Decoding.toExcept, herror]
    exact ⟨line, message, rfl⟩
  · intro hcolumn hmisfits
    have hfits : ∀ row ∈ rows, Fits header row := by
      intro row hrow
      by_contra hnot
      exact hmisfits ((misfits_iff hcolumn).mpr ⟨row, hrow, hnot⟩)
    obtain ⟨users, husers, hrows⟩ := decodeRows_of_fits hfits hrecords 1 #[]
    rw [if_pos hcolumn, hrows]
    exact ⟨users, by simp [Decoding.toExcept, ofList], husers⟩

theorem ofCsv_eq_of_tableText_of_two_rows :
    ofCsv "\n\"name\",username\r\n\r\"a\nb\",\" \"\"Jo\"\rx," = .ok (.ofList [" \"Jo", ""]) := by
  have hheader : RecordText ["name", "username"] ("\"name\"".toList ++ ',' :: "username".toList) :=
    ⟨.cons .quoted (.last (.bare (by simp [Special]))), by decide⟩
  have hfirst : RecordText ["a\nb", " \"Jo"] ("\"a\nb\"".toList ++ ',' :: "\" \"\"Jo\"".toList) :=
    ⟨.cons .quoted (.last .quoted), by decide⟩
  have hlast : RecordText ["x", ""] ("x".toList ++ ',' :: "".toList) :=
    ⟨.cons (.bare (by simp [Special])) (.last (.bare (by simp [Special]))), by decide⟩
  have htable : TableText [["name", "username"], ["a\nb", " \"Jo"], ["x", ""]]
      "\n\"name\",username\r\n\r\"a\nb\",\" \"\"Jo\"\rx,".toList :=
    ⟨⟨_, _, .cons .lineFeed .none,
      .cons hheader .both (.cons .carriageReturn .none)
        (.cons hfirst .carriageReturn .none (.unended hlast)), by decide⟩, by decide⟩
  obtain ⟨users, hroster, husers⟩ :=
    (ofCsv_eq_of_tableText htable).2.2 (by decide) (by decide)
  have hlist : users = [" \"Jo", ""] :=
    List.map_injective_iff.mpr (fun _ _ => Option.some.inj) husers
  rw [hroster, hlist]

end Roster

end RoomDraw
