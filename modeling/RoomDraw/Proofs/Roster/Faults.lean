import Mathlib.Data.List.Forall2
import RoomDraw.Proofs.Csv.Records
import RoomDraw.Proofs.Roster.Table

/-!
# The first fault decides

What a feed comes to is told by its complete records, one after the other: the first one that is at
fault decides, whatever follows it, and a failure to read on counts only where no record before it
is at fault. There is a roster only at the end of the input, and then every record behind the
header has given a user.
-/

namespace RoomDraw

namespace Roster

open Csv

variable {header : List String}

/-! ### One record -/

/-- Fields are the bytes of texts, or there is a first one that is not. -/
lemma exists_texts_or (fields : List Bytes) :
    (∃ texts : List String, fields = texts.map Utf8.encode) ∨
      ∃ (texts : List String) (bad : Bytes) (rest : List Bytes),
        fields = texts.map Utf8.encode ++ bad :: rest ∧ Utf8.decode? bad = none := by
  induction fields with
  | nil => exact .inl ⟨[], rfl⟩
  | cons field fields ih =>
    rcases hfield : Utf8.decode? field with _ | text
    · exact .inr ⟨[], field, fields, rfl, hfield⟩
    · obtain rfl := Utf8.eq_encode_of_decode? hfield
      obtain ⟨texts, rfl⟩ | ⟨texts, bad, rest, rfl, hbad⟩ := ih
      · exact .inl ⟨text :: texts, rfl⟩
      · exact .inr ⟨text :: texts, bad, rest, rfl, hbad⟩

lemma decodeFields_of_invalid {bad : Bytes} (hbad : Utf8.decode? bad = none) (place : Position)
    (index : Nat) (texts : List String) (rest : List Bytes) :
    decodeFields place index (texts.map Utf8.encode ++ bad :: rest) =
      .error (.invalidUtf8 place (index + texts.length) (Utf8.validLength bad)) := by
  induction texts generalizing index with
  | nil => simp [decodeFields, hbad]
  | cons text texts ih =>
    rw [List.map_cons, List.cons_append, decodeFields, Utf8.decode?_encode]
    simp only [ih, List.length_cons]
    rw [Nat.add_right_comm, Nat.add_assoc]
    rfl

/-- The fields are those of a row of the table, and this user stands in its only column of
users. -/
def Names (header : List String) (fields : List Bytes) (user : String) : Prop :=
  ∃ row : List String, fields = row.map Utf8.encode ∧ Fits header row ∧
    row[header.idxOf usernameColumn]? = some user

/-- The records name these users, one each. -/
def NamesAll (header : List String) (rows : List Record) (users : List String) : Prop :=
  List.Forall₂ (fun r user => Names header r.fields user) rows users

/-- What is wrong with a record. Its fields are counted first, then read, and only then is the
column of users looked for. -/
inductive RowFault (header : List String) (number : Nat) (r : Record) : Fault → Prop where
  | fieldCount (h : r.fields.length ≠ header.length) :
      RowFault header number r
        (.fieldCount ⟨number, r.position⟩ r.fields.length header.length)
  | invalidUtf8 {texts : List String} {bad rest} (hlength : r.fields.length = header.length)
      (h : r.fields = texts.map Utf8.encode ++ bad :: rest) (hbad : Utf8.decode? bad = none) :
      RowFault header number r
        (.invalidUtf8 ⟨number, r.position⟩ texts.length (Utf8.validLength bad))
  | repeatedColumn {row : List String} (h : r.fields = row.map Utf8.encode)
      (hlength : row.length = header.length) (hcount : 1 < header.count usernameColumn) :
      RowFault header number r (.repeatedColumn ⟨number, r.position⟩ usernameColumn)

lemma RowFault.line_eq {number : Nat} {r : Record} {fault : Fault}
    (h : RowFault header number r fault) : fault.line = r.position.line := by
  cases h <;> rfl

/-- A record names a user or is at fault. -/
lemma exists_names_or_rowFault (h : usernameColumn ∈ header) (number : Nat) (r : Record) :
    (∃ user, Names header r.fields user) ∨ ∃ fault, RowFault header number r fault := by
  have hcount := List.count_pos_iff.mpr h
  by_cases hlength : r.fields.length = header.length
  · obtain ⟨row, hrow⟩ | ⟨texts, bad, rest, hfields, hbad⟩ := exists_texts_or r.fields
    · have hrowLength : row.length = header.length := by simpa [hrow] using hlength
      by_cases hone : header.count usernameColumn = 1
      · obtain ⟨user, huser, -⟩ := filter_zip_eq_singleton hrowLength hone
        exact .inl ⟨user, row, hrow, ⟨hrowLength, hone⟩, huser⟩
      · exact .inr ⟨_, .repeatedColumn hrow hrowLength (by omega)⟩
    · exact .inr ⟨_, .invalidUtf8 hlength hfields hbad⟩
  · exact .inr ⟨_, .fieldCount hlength⟩

lemma rowUser_of_names {r : Record} {user : String} (h : Names header r.fields user)
    (number : Nat) : rowUser header number r = .ok user := by
  obtain ⟨row, hr, hfits, huser⟩ := h
  obtain ⟨user', huser', hrow⟩ := rowUser_of_fits hfits hr number
  rw [hrow, Option.some.inj (huser'.symm.trans huser)]

lemma rowUser_of_rowFault {number : Nat} {r : Record} {fault : Fault}
    (h : RowFault header number r fault) : rowUser header number r = .error fault := by
  cases h with
  | fieldCount h => exact if_pos h
  | invalidUtf8 hlength h hbad =>
    rw [rowUser, if_neg (not_not_intro hlength), Record.decode, h, decodeFields_of_invalid hbad,
      Nat.zero_add]
    rfl
  | repeatedColumn h hlength hcount => exact rowUser_of_count_ne_one hlength hcount.ne' h number

/-! ### All records -/

/-- The records behind the header name users up to the first one at fault. -/
lemma exists_users_or (h : usernameColumn ∈ header) (number : Nat) (rows : List Record) :
    (∃ users, NamesAll header rows users) ∨
      ∃ good bad rest users fault, rows = good ++ bad :: rest ∧
        NamesAll header good users ∧
        RowFault header (number + good.length) bad fault := by
  induction rows generalizing number with
  | nil => exact .inl ⟨[], .nil⟩
  | cons r rows ih =>
    obtain ⟨user, huser⟩ | ⟨fault, hfault⟩ := exists_names_or_rowFault h number r
    · obtain ⟨users, husers⟩ | ⟨good, bad, rest, users, fault, rfl, husers, hfault⟩ :=
        ih (number + 1)
      · exact .inl ⟨user :: users, .cons huser husers⟩
      · refine .inr ⟨r :: good, bad, rest, user :: users, fault, rfl, .cons huser husers, ?_⟩
        rwa [List.length_cons, Nat.add_comm good.length, ← Nat.add_assoc]
    · exact .inr ⟨[], r, rows, [], fault, rfl, .nil, hfault⟩

lemma decodeRows_of_names {good : List Record} {found : List String}
    (h : NamesAll header good found) (ending : FeedEnd) (number : Nat)
    (users : Array String) (rest : List Record) :
    decodeRows header ending number users (good ++ rest) =
      decodeRows header ending (number + good.length) (users ++ found.toArray) rest := by
  induction h generalizing number users with
  | nil => simp
  | @cons r user good found huser _ ih =>
    rw [List.cons_append, decodeRows, rowUser_of_names huser]
    simp only [ih, List.length_cons]
    congr 1
    · omega
    · simp

lemma decodeRows_of_forall {rows : List Record} {found : List String}
    (h : NamesAll header rows found) (ending : FeedEnd) (number : Nat)
    (users : Array String) :
    decodeRows header ending number users rows =
      decodeRows header ending (number + rows.length) (users ++ found.toArray) [] := by
  simpa using decodeRows_of_names h ending number users []

/-- What records come to, the header first, followed by the end of the input or a failure to read
on. -/
inductive Outcome : FeedEnd → List Record → Except RosterError Roster → Prop where
  /-- Reading failed before the header was complete. -/
  | unread {message} : Outcome (.failed message) [] (.error (.badRow 0 message))
  | empty : Outcome .complete [] (.error .missingColumn)
  | badHeader {ending first rows bad rest} {texts : List String}
      (hfields : first.fields = texts.map Utf8.encode ++ bad :: rest)
      (hbad : Utf8.decode? bad = none) :
      Outcome ending (first :: rows) (.error (.badRow first.position.line
        (Fault.invalidUtf8 ⟨0, first.position⟩ texts.length (Utf8.validLength bad)).message))
  | missingColumn {ending first rows} {header : List String}
      (hheader : first.fields = header.map Utf8.encode) (hmissing : usernameColumn ∉ header) :
      Outcome ending (first :: rows) (.error .missingColumn)
  /-- A record is at fault and none before it is. Those behind it do not matter. -/
  | badRow {ending first good users bad rest fault} {header : List String}
      (hheader : first.fields = header.map Utf8.encode) (hcolumn : usernameColumn ∈ header)
      (hgood : NamesAll header good users)
      (hbad : RowFault header (good.length + 1) bad fault) :
      Outcome ending (first :: (good ++ bad :: rest))
        (.error (.badRow bad.position.line fault.message))
  /-- Reading failed behind records none of which is at fault. -/
  | cutOff {message first rows users} {header : List String}
      (hheader : first.fields = header.map Utf8.encode) (hcolumn : usernameColumn ∈ header)
      (hrows : NamesAll header rows users) :
      Outcome (.failed message) (first :: rows) (.error (.badRow 0 message))
  | roster {first rows users} {header : List String}
      (hheader : first.fields = header.map Utf8.encode) (hcolumn : usernameColumn ∈ header)
      (hrows : NamesAll header rows users) :
      Outcome .complete (first :: rows) (.ok (.ofList users))

/-- Records always come to something. -/
lemma exists_outcome (ending : FeedEnd) (records : List Record) :
    ∃ result, Outcome ending records result := by
  rcases records with _ | ⟨first, rows⟩
  · cases ending with
    | complete => exact ⟨_, .empty⟩
    | failed message => exact ⟨_, .unread⟩
  obtain ⟨header, hheader⟩ | ⟨texts, bad, rest, hfields, hbad⟩ := exists_texts_or first.fields
  · by_cases hcolumn : usernameColumn ∈ header
    · obtain ⟨users, hrows⟩ | ⟨good, bad, rest, users, fault, rfl, hgood, hbad⟩ :=
        exists_users_or hcolumn 1 rows
      · cases ending with
        | complete => exact ⟨_, .roster hheader hcolumn hrows⟩
        | failed message => exact ⟨_, .cutOff hheader hcolumn hrows⟩
      · exact ⟨_, .badRow hheader hcolumn hgood (Nat.add_comm 1 _ ▸ hbad)⟩
    · exact ⟨_, .missingColumn hheader hcolumn⟩
  · exact ⟨_, .badHeader hfields hbad⟩

/-- A roster comes only of records that all have been read. -/
lemma Outcome.of_ok {ending : FeedEnd} {records : List Record} {roster : Roster}
    (h : Outcome ending records (.ok roster)) :
    ending = .complete ∧ ∃ (first : Record) (rows : List Record) (header : List String),
      records = first :: rows ∧ first.fields = header.map Utf8.encode ∧
      NamesAll header rows roster.users.toList := by
  cases h with
  | roster hheader _ hrows => exact ⟨rfl, _, _, _, rfl, hheader, hrows⟩

lemma effective_of_ne {feed : Feed} (h : feed.chunks.head? ≠ some Feed.byteOrderMark) :
    feed.effective = feed := if_neg h

/-- A feed comes to what its records come to. -/
lemma ofFeed_of_outcome {feed : Feed} (hmark : feed.chunks.head? ≠ some Feed.byteOrderMark)
    {result : Except RosterError Roster} (h : Outcome feed.ending (Csv.records feed) result) :
    ofFeed feed = result := by
  rw [ofFeed, decode, effective_of_ne hmark]
  generalize feed.ending = ending, Csv.records feed = records at h ⊢
  cases h with
  | unread => rfl
  | empty => rfl
  | badHeader hfields hbad =>
    simp only [Record.decode, hfields, decodeFields_of_invalid hbad, Nat.zero_add]
    rfl
  | missingColumn hheader hmissing =>
    simp only [decode_of_fields_eq hheader, List.contains_iff_mem, if_neg hmissing]
    rfl
  | badRow hheader hcolumn hgood hbad =>
    simp only [decode_of_fields_eq hheader, List.contains_iff_mem, if_pos hcolumn,
      decodeRows_of_names hgood, decodeRows, rowUser_of_rowFault (Nat.add_comm 1 _ ▸ hbad)]
    rw [Decoding.toExcept, faultError, hbad.line_eq]
  | cutOff hheader hcolumn hrows =>
    simp only [decode_of_fields_eq hheader, List.contains_iff_mem, if_pos hcolumn,
      decodeRows_of_forall hrows]
    rfl
  | roster hheader hcolumn hrows =>
    simp only [decode_of_fields_eq hheader, List.contains_iff_mem, if_pos hcolumn,
      decodeRows_of_forall hrows]
    simp [decodeRows, Decoding.toExcept, ofList]

lemma ofFeed_eq_iff {feed : Feed} (hmark : feed.chunks.head? ≠ some Feed.byteOrderMark)
    {result : Except RosterError Roster} :
    ofFeed feed = result ↔ Outcome feed.ending (Csv.records feed) result := by
  obtain ⟨result', houtcome⟩ := exists_outcome feed.ending (Csv.records feed)
  constructor
  · rintro rfl
    rwa [ofFeed_of_outcome hmark houtcome]
  · exact ofFeed_of_outcome hmark

/-! ### The users found on the way -/

/-- The users that are read from records, the header first, until one is at fault. -/
inductive Finds : List Record → List String → Prop where
  | none : Finds [] []
  /-- The header is not one of texts among which is the column of users. -/
  | badHeader {first rows}
      (h : ∀ header : List String, first.fields = header.map Utf8.encode →
        usernameColumn ∉ header) :
      Finds (first :: rows) []
  | rows {first good rest users} {header : List String}
      (hheader : first.fields = header.map Utf8.encode) (hcolumn : usernameColumn ∈ header)
      (hgood : NamesAll header good users)
      (hrest : ∀ bad others, rest = bad :: others →
        ∃ fault, RowFault header (good.length + 1) bad fault) :
      Finds (first :: (good ++ rest)) users

/-- Fields of which one is not a text are not those of texts. -/
lemma ne_map_encode_of_invalid {texts : List String} {bad : Bytes} {rest : List Bytes}
    (hbad : Utf8.decode? bad = none) (header : List String) :
    texts.map Utf8.encode ++ bad :: rest ≠ header.map Utf8.encode := by
  intro h
  have hmem : bad ∈ header.map Utf8.encode := h ▸ by simp
  obtain ⟨text, -, rfl⟩ := List.mem_map.mp hmem
  rw [Utf8.decode?_encode] at hbad
  cases hbad

lemma decodeRows_nil (ending : FeedEnd) (number : Nat) (users : Array String) :
    (decodeRows header ending number users []).users = users := by
  cases ending <;> rfl

/-- Decoding finds the users of the records before the first fault. -/
lemma finds_decode (feed : Feed) :
    Finds (Csv.records feed.effective) (decode feed).users.toList := by
  rw [decode]
  generalize feed.effective.ending = ending, Csv.records feed.effective = records
  rcases records with _ | ⟨first, rows⟩
  · cases ending <;> exact .none
  obtain ⟨header, hheader⟩ | ⟨texts, bad, rest, hfields, hbad⟩ := exists_texts_or first.fields
  · by_cases hcolumn : usernameColumn ∈ header
    · simp only [decode_of_fields_eq hheader, List.contains_iff_mem, if_pos hcolumn]
      obtain ⟨users, husers⟩ | ⟨good, bad, rest, users, fault, rfl, husers, hfault⟩ :=
        exists_users_or hcolumn 1 rows
      · have hfinds : Finds (first :: (rows ++ [])) users :=
          .rows hheader hcolumn husers (by simp)
        rw [List.append_nil] at hfinds
        simpa [decodeRows_of_forall husers, decodeRows_nil] using hfinds
      · have hfinds : Finds (first :: (good ++ bad :: rest)) users := by
          refine .rows hheader hcolumn husers ?_
          rintro _ _ ⟨⟩
          exact ⟨fault, Nat.add_comm 1 _ ▸ hfault⟩
        simpa [decodeRows_of_names husers, decodeRows, rowUser_of_rowFault hfault] using hfinds
    · simp only [decode_of_fields_eq hheader, List.contains_iff_mem, if_neg hcolumn]
      refine .badHeader fun other hother => ?_
      have hsame := (decode_of_fields_eq hheader 0).symm.trans (decode_of_fields_eq hother 0)
      rwa [← Except.ok.inj hsame]
  · simp only [Record.decode, hfields, decodeFields_of_invalid hbad]
    exact .badHeader fun header hheader =>
      absurd (hfields.symm.trans hheader) (ne_map_encode_of_invalid hbad header)

/-! ### Feeds -/

/-- A first chunk that is the byte-order mark alone ends the input. -/
lemma ofFeed_of_mark {feed : Feed} (h : feed.chunks.head? = some Feed.byteOrderMark) :
    ofFeed feed = .error .missingColumn := by
  have hdecode : decode feed = decode ⟨[Feed.byteOrderMark], .complete⟩ := by
    simp [decode, Feed.effective, h]
  rw [ofFeed, hdecode]
  rfl

/-- A roster comes only of a feed that has been read to its end. -/
lemma complete_of_ofFeed_ok {feed : Feed} {roster : Roster} (h : ofFeed feed = .ok roster) :
    feed.chunks.head? ≠ some Feed.byteOrderMark ∧ feed.ending = .complete := by
  have hmark : feed.chunks.head? ≠ some Feed.byteOrderMark := by
    intro hmark
    rw [ofFeed_of_mark hmark] at h
    cases h
  exact ⟨hmark, ((ofFeed_eq_iff hmark).mp h).of_ok.1⟩

/-- In whatever way the bytes of a feed are laid out in records, the feed comes to what these come
to, so that the first fault decides; only if the first chunk is the byte-order mark alone is
nothing read behind it. A roster comes of records that have been read to the end of the input, and
each of them behind the header has given one user. -/
theorem ofFeed_reports_first_fault (feed : Feed) :
    (feed.chunks.head? ≠ some Feed.byteOrderMark →
      (∃ sheet : Sheet, sheet.Of feed.content) ∧
      ∀ sheet : Sheet, sheet.Of feed.content → ∀ result,
        ofFeed feed = result ↔ Outcome feed.ending (sheet.placedRecords feed) result) ∧
    (feed.chunks.head? = some Feed.byteOrderMark → ofFeed feed = .error .missingColumn) ∧
    ∀ roster, ofFeed feed = .ok roster → feed.ending = .complete ∧
      ∀ sheet : Sheet, sheet.Of feed.content →
        ∃ (first : Record) (rows : List Record) (header : List String),
          sheet.placedRecords feed = first :: rows ∧ first.fields = header.map Utf8.encode ∧
          NamesAll header rows roster.users.toList := by
  have hiff : feed.chunks.head? ≠ some Feed.byteOrderMark → ∀ sheet : Sheet,
      sheet.Of feed.content → ∀ result,
        ofFeed feed = result ↔ Outcome feed.ending (sheet.placedRecords feed) result := by
    intro hmark sheet hsheet result
    rw [ofFeed_eq_iff hmark, records_eq_placedRecords hsheet]
  refine ⟨fun hmark => ⟨exists_sheet feed.content, hiff hmark⟩, ofFeed_of_mark, ?_⟩
  intro roster hroster
  obtain ⟨hmark, hending⟩ := complete_of_ofFeed_ok hroster
  refine ⟨hending, fun sheet hsheet => ?_⟩
  exact ((hiff hmark sheet hsheet _).mp hroster).of_ok.2

/-- A failure behind a first chunk that is the byte-order mark alone is not reported. -/
theorem failure_behind_mark_not_reported :
    ¬∀ (feed : Feed) (sheet : Sheet) (message : String), (∀ chunk ∈ feed.chunks, chunk ≠ []) →
      feed.ending = .failed message → sheet.Of feed.content → sheet.lines = [] →
      ofFeed feed = .error (.badRow 0 message) := by
  intro h
  have hsheet : (⟨[], ⟨[], [], [], []⟩⟩ : Sheet).Of
      (Feed.content ⟨[Feed.byteOrderMark], .failed "feed failed"⟩) :=
    ⟨by simp, ⟨by simp, .inl rfl, rfl⟩, rfl⟩
  have hreported := h _ _ _ (by simp [Feed.byteOrderMark]) rfl hsheet rfl
  rw [ofFeed_of_mark rfl] at hreported
  cases hreported

end Roster

end RoomDraw
