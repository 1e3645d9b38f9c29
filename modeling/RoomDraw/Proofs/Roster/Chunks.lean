import RoomDraw.Proofs.Roster.Faults

/-!
# Reading chunk by chunk

A reader that is handed one chunk after the other, and knows nothing of the next one, decodes each
record as soon as it is complete and keeps only what the scanner is in the middle of. It comes to
what decoding all bytes at once comes to (`readChunks_eq_decode`). So it does not matter where the
bytes are cut, as long as a byte-order mark is met alike.
-/

namespace RoomDraw

namespace Csv

/-! ### A scanner that has handed its records over -/

/-- The scanner with records before those that it has. -/
def Scanner.behind (past : Array Record) (s : Scanner) : Scanner :=
  { s with records := past ++ s.records }

/-- The scanner without the records that it has. -/
def Scanner.emptied (s : Scanner) : Scanner := { s with records := #[] }

namespace Scanner

lemma emptied_behind (s : Scanner) : s.emptied.behind s.records = s := by
  simp [emptied, behind]

lemma complete_behind (past : Array Record) (s : Scanner) (place : Cursor) :
    (s.behind past).complete place = (s.complete place).behind past := by
  simp [complete, behind]

/-- The records that it has are nothing to the scanner. -/
lemma step_behind (past : Array Record) (s : Scanner) (b : UInt8) :
    (s.behind past).step b = (s.step b).behind past := by
  simp only [step, startField, complete_behind, show (s.behind past).mode = s.mode from rfl,
    show (s.behind past).cursor = s.cursor from rfl]
  split <;> split_ifs <;> rfl

lemma foldl_behind (past : Array Record) (s : Scanner) (bytes : Bytes) :
    bytes.foldl step (s.behind past) = (bytes.foldl step s).behind past := by
  induction bytes generalizing s with
  | nil => rfl
  | cons b bytes ih => rw [List.foldl_cons, step_behind, ih, List.foldl_cons]

lemma finish_behind (past : Array Record) (s : Scanner) :
    (s.behind past).finish = s.finish.behind past := by
  simp only [finish, complete_behind, show (s.behind past).mode = s.mode from rfl,
    show (s.behind past).cursor = s.cursor from rfl]
  split <;> rfl

end Scanner

end Csv

namespace Feed

/-! ### A byte-order mark at the front -/

/-- The number of bytes that the first chunk holds. -/
def firstLength (feed : Feed) : Nat := (feed.chunks.head?.getD []).length

lemma markLength_cons (chunk : Bytes) (chunks : List Bytes) (ending : FeedEnd) :
    (⟨chunk :: chunks, ending⟩ : Feed).markLength = if byteOrderMark <+: chunk then 3 else 0 := by
  simp [markLength, List.isPrefixOf_iff_prefix]

lemma content_cons (chunk : Bytes) (chunks : List Bytes) (ending : FeedEnd) :
    (⟨chunk :: chunks, ending⟩ : Feed).content =
      chunk.drop (⟨chunk :: chunks, ending⟩ : Feed).markLength ++ chunks.flatten := by
  rw [content, bytes, List.flatten_cons, List.drop_append_of_le_length]
  rw [markLength_cons]
  split_ifs with hmark
  · exact hmark.length_le
  · exact Nat.zero_le _

/-- Nothing is left of the first chunk only if it is the mark alone. -/
lemma drop_markLength_ne_nil {chunk : Bytes} (hchunk : chunk ≠ []) (hmark : chunk ≠ byteOrderMark)
    (chunks : List Bytes) (ending : FeedEnd) :
    chunk.drop (⟨chunk :: chunks, ending⟩ : Feed).markLength ≠ [] := by
  rw [markLength_cons]
  split_ifs with h
  · intro hnil
    exact hmark (h.eq_of_length_le (List.drop_eq_nil_iff.mp hnil)).symm
  · exact hchunk

/-- The first chunk begins with a mark if the bytes do and it is long enough. -/
lemma mark_prefix_iff (chunk : Bytes) (chunks : List Bytes) :
    byteOrderMark <+: chunk ↔ byteOrderMark <+: chunk ++ chunks.flatten ∧ 3 ≤ chunk.length := by
  constructor
  · intro h
    exact ⟨h.trans (List.prefix_append _ _), h.length_le⟩
  · rintro ⟨h, hlength⟩
    exact List.prefix_of_prefix_length_le h (List.prefix_append _ _) hlength

lemma markLength_eq (feed : Feed) :
    feed.markLength = if byteOrderMark <+: feed.bytes ∧ 3 ≤ feed.firstLength then 3 else 0 := by
  obtain ⟨_ | ⟨chunk, chunks⟩, ending⟩ := feed
  · rfl
  · simp only [markLength_cons, mark_prefix_iff chunk chunks]
    rfl

lemma head?_eq_mark_iff (feed : Feed) :
    feed.chunks.head? = some byteOrderMark ↔
      byteOrderMark <+: feed.bytes ∧ feed.firstLength = 3 := by
  obtain ⟨_ | ⟨chunk, chunks⟩, ending⟩ := feed
  · simp [firstLength]
  · simp only [List.head?_cons, Option.some.injEq, bytes, List.flatten_cons, firstLength,
      Option.getD_some]
    constructor
    · rintro rfl
      exact ⟨List.prefix_append _ _, rfl⟩
    · rintro ⟨h, hlength⟩
      have hfront := (mark_prefix_iff chunk chunks).mpr ⟨h, hlength.ge⟩
      exact (hfront.eq_of_length hlength.symm).symm

/-- Two feeds hand out the same bytes and end alike. If the bytes begin with a byte-order mark, both
have all of it in the first chunk, and if one has nothing else there, so has the other. -/
structure Recut (a b : Feed) : Prop where
  bytes_eq : a.bytes = b.bytes
  ending_eq : a.ending = b.ending
  mark : byteOrderMark <+: a.bytes →
    3 ≤ a.firstLength ∧ 3 ≤ b.firstLength ∧ (a.firstLength = 3 ↔ b.firstLength = 3)

namespace Recut

variable {a b : Feed}

lemma markLength_eq (h : a.Recut b) : a.markLength = b.markLength := by
  rw [Feed.markLength_eq, Feed.markLength_eq, ← h.bytes_eq]
  by_cases hmark : byteOrderMark <+: a.bytes
  · obtain ⟨ha, hb, -⟩ := h.mark hmark
    rw [if_pos ⟨hmark, ha⟩, if_pos ⟨hmark, hb⟩]
  · rw [if_neg fun hfront => hmark hfront.1, if_neg fun hfront => hmark hfront.1]

lemma head?_eq_mark_iff (h : a.Recut b) :
    a.chunks.head? = some byteOrderMark ↔ b.chunks.head? = some byteOrderMark := by
  rw [Feed.head?_eq_mark_iff, Feed.head?_eq_mark_iff, ← h.bytes_eq]
  exact and_congr_right fun hmark => (h.mark hmark).2.2

end Recut

end Feed

namespace Roster

open Csv

/-! ### Decoding one record after the other -/

/-- How far the decoding of records has come. -/
inductive Progress where
  /-- There was no record yet. -/
  | start
  /-- Behind the header, at a record of the given number, with the users so far. -/
  | rows (header : List String) (number : Nat) (users : Array String)
  | stopped (decoding : Decoding)

namespace Progress

/-- Decodes one more record, unless the decoding has stopped. -/
def take : Progress → Record → Progress
  | .start, r =>
    match r.decode 0 with
    | .error fault => .stopped ⟨#[], some (faultError fault)⟩
    | .ok names =>
      if names.contains usernameColumn then .rows names 1 #[]
      else .stopped ⟨#[], some .missingColumn⟩
  | .rows header number users, r =>
    match rowUser header number r with
    | .ok user => .rows header (number + 1) (users.push user)
    | .error fault => .stopped ⟨users, some (faultError fault)⟩
  | .stopped decoding, _ => .stopped decoding

/-- What the decoding comes to when no record follows. -/
def close (ending : FeedEnd) : Progress → Decoding
  | .start =>
    match ending with
    | .complete => ⟨#[], some .missingColumn⟩
    | .failed message => ⟨#[], some (faultError (.unreadable message))⟩
  | .rows _ _ users =>
    match ending with
    | .complete => ⟨users, none⟩
    | .failed message => ⟨users, some (faultError (.unreadable message))⟩
  | .stopped decoding => decoding

lemma foldl_stopped (decoding : Decoding) (records : List Record) :
    records.foldl take (.stopped decoding) = .stopped decoding := by
  induction records with
  | nil => rfl
  | cons r records ih => exact ih

lemma close_foldl_rows (ending : FeedEnd) (header : List String) (number : Nat)
    (users : Array String) (records : List Record) :
    close ending (records.foldl take (.rows header number users)) =
      decodeRows header ending number users records := by
  induction records generalizing number users with
  | nil => cases ending <;> rfl
  | cons r records ih =>
    rcases huser : rowUser header number r with fault | user
    · simp only [List.foldl_cons, take, decodeRows, huser, foldl_stopped, close]
    · simp only [List.foldl_cons, take, decodeRows, huser, ih]

end Progress

/-- Decoding is taking one record after the other. -/
lemma decode_eq_foldl {feed : Feed} (hmark : feed.chunks.head? ≠ some Feed.byteOrderMark) :
    decode feed = ((Csv.records feed).foldl Progress.take .start).close feed.ending := by
  rw [decode, effective_of_ne hmark]
  cases Csv.records feed with
  | nil => rfl
  | cons first rows =>
    rcases hfirst : first.decode 0 with fault | names
    · simp only [List.foldl_cons, Progress.take, hfirst, Progress.foldl_stopped, Progress.close]
    · by_cases hcolumn : names.contains usernameColumn
      · simp only [List.foldl_cons, Progress.take, hfirst, if_pos hcolumn,
          Progress.close_foldl_rows]
      · simp only [List.foldl_cons, Progress.take, hfirst, if_neg hcolumn, Progress.foldl_stopped,
          Progress.close]

/-! ### One chunk after the other -/

/-- A reader between two chunks. -/
structure Reader where
  scanner : Scanner
  progress : Progress

namespace Reader

/-- The reader at the front, behind a byte-order mark that is dropped. -/
def start (skipped : Nat) : Reader := ⟨.init skipped, .start⟩

/-- Scans a chunk and decodes the records that are complete with it. -/
def take (r : Reader) (chunk : Bytes) : Reader :=
  let scanned := chunk.foldl Scanner.step r.scanner
  ⟨scanned.emptied, scanned.records.toList.foldl Progress.take r.progress⟩

def close (r : Reader) : FeedEnd → Decoding
  | .complete =>
    (r.scanner.finish.records.toList.foldl Progress.take r.progress).close .complete
  | .failed message => r.progress.close (.failed message)

/-- Reads the chunks that follow. One that holds nothing is the end of the input. -/
def run (ending : FeedEnd) : Reader → List Bytes → Decoding
  | r, [] => r.close ending
  | r, [] :: _ => r.close .complete
  | r, (b :: chunk) :: chunks => run ending (r.take (b :: chunk)) chunks

end Reader

/-- Reads a feed chunk by chunk. A byte-order mark is looked for in the first chunk only. -/
def readChunks (feed : Feed) : Decoding :=
  match feed.chunks with
  | [] => Reader.run feed.ending (.start 0) []
  | chunk :: chunks =>
    Reader.run feed.ending (.start feed.markLength) (chunk.drop feed.markLength :: chunks)

namespace Reader

/-- The reader has handed over and decoded the records that the scanner of all bytes has. -/
structure Keeps (r : Reader) (s : Scanner) : Prop where
  scanner_eq : r.scanner = s.emptied
  progress_eq : r.progress = s.records.toList.foldl Progress.take .start

lemma keeps_start (skipped : Nat) : (start skipped).Keeps (.init skipped) := ⟨rfl, rfl⟩

namespace Keeps

variable {r : Reader} {s : Scanner}

/-- What the scanner was in the middle of goes over to the next chunk, wherever the cut is. -/
lemma take (h : r.Keeps s) (chunk : Bytes) : (r.take chunk).Keeps (chunk.foldl Scanner.step s) := by
  have hfold : chunk.foldl Scanner.step s =
      (chunk.foldl Scanner.step r.scanner).behind s.records := by
    rw [← Scanner.foldl_behind, h.scanner_eq, Scanner.emptied_behind]
  constructor
  · rw [hfold]
    rfl
  · rw [hfold, Reader.take, h.progress_eq]
    simp [Scanner.behind]

lemma close_complete (h : r.Keeps s) :
    r.close .complete =
      (s.finish.records.toList.foldl Progress.take .start).close .complete := by
  have hfinish : s.finish = r.scanner.finish.behind s.records := by
    rw [← Scanner.finish_behind, h.scanner_eq, Scanner.emptied_behind]
  rw [hfinish, Reader.close, h.progress_eq]
  simp [Scanner.behind]

lemma close_failed (h : r.Keeps s) (message : String) :
    r.close (.failed message) =
      (s.records.toList.foldl Progress.take .start).close (.failed message) := by
  rw [Reader.close, h.progress_eq]

/-- Chunk by chunk the reader comes to what all of the bytes come to. -/
lemma run (h : r.Keeps s) {chunks : List Bytes} (hchunks : ∀ chunk ∈ chunks, chunk ≠ [])
    (ending : FeedEnd) :
    ∃ r' : Reader, r'.Keeps (chunks.flatten.foldl Scanner.step s) ∧
      r.run ending chunks = r'.close ending := by
  induction chunks generalizing r s with
  | nil => exact ⟨r, h, rfl⟩
  | cons chunk chunks ih =>
    obtain ⟨b, chunk, rfl⟩ := List.exists_cons_of_ne_nil (hchunks chunk (by simp))
    obtain ⟨r', hr', hrun⟩ :=
      ih (h.take (b :: chunk)) fun chunk' hchunk' => hchunks chunk' (by simp [hchunk'])
    refine ⟨r', ?_, hrun⟩
    rwa [List.flatten_cons, List.foldl_append]

end Keeps

end Reader

/-! ### A feed -/

/-- Reading chunk by chunk comes to what decoding all bytes at once comes to. -/
theorem readChunks_eq_decode {feed : Feed} (h : ∀ chunk ∈ feed.chunks, chunk ≠ []) :
    readChunks feed = decode feed := by
  obtain ⟨chunks, ending⟩ := feed
  by_cases hmark : chunks.head? = some Feed.byteOrderMark
  · obtain ⟨chunks, rfl⟩ := List.head?_eq_some_iff.mp hmark
    rw [decode, Feed.effective, if_pos hmark]
    rfl
  have hkeeps : ∃ r : Reader,
      r.Keeps ((Feed.content ⟨chunks, ending⟩).foldl Scanner.step
        (.init (Feed.markLength ⟨chunks, ending⟩))) ∧
      readChunks ⟨chunks, ending⟩ = r.close ending := by
    cases chunks with
    | nil => exact ⟨_, Reader.keeps_start 0, rfl⟩
    | cons chunk chunks =>
      have hleft := Feed.drop_markLength_ne_nil (h chunk (by simp))
        (fun heq => hmark (congrArg some heq)) chunks ending
      have hchunks : ∀ chunk' ∈ chunk.drop (Feed.markLength ⟨chunk :: chunks, ending⟩) :: chunks,
          chunk' ≠ [] :=
        List.forall_mem_cons.mpr ⟨hleft, fun chunk' hchunk' => h chunk' (by simp [hchunk'])⟩
      rw [Feed.content_cons]
      exact (Reader.keeps_start _).run hchunks ending
  obtain ⟨r, hr, hread⟩ := hkeeps
  rw [decode_eq_foldl hmark, hread]
  cases ending with
  | complete => exact hr.close_complete
  | failed message => exact hr.close_failed message

lemma records_eq_of_recut {a b : Feed} (h : a.Recut b) : Csv.records a = Csv.records b := by
  simp only [Csv.records, h.bytes_eq, h.markLength_eq, h.ending_eq]

lemma decode_eq_of_recut {a b : Feed} (h : a.Recut b) : decode a = decode b := by
  by_cases hmark : a.chunks.head? = some Feed.byteOrderMark
  · have hmark' := h.head?_eq_mark_iff.mp hmark
    rw [decode, decode, Feed.effective, Feed.effective, if_pos hmark, if_pos hmark']
  · have hmark' := mt h.head?_eq_mark_iff.mpr hmark
    rw [decode_eq_foldl hmark, decode_eq_foldl hmark', records_eq_of_recut h, h.ending_eq]

/-- It does not matter where the bytes are cut: a reader that is handed them chunk by chunk comes to
the same users, or to the same error, and that is what the bytes come to in one piece. -/
theorem ofFeed_eq_of_recut {a b : Feed} (h : a.Recut b) (ha : ∀ chunk ∈ a.chunks, chunk ≠ [])
    (hb : ∀ chunk ∈ b.chunks, chunk ≠ []) :
    (readChunks a).toExcept = ofFeed a ∧ (readChunks b).toExcept = ofFeed b ∧ ofFeed a = ofFeed b ∧
      ∀ text, a.Recut (.ofBytes (Utf8.encode text)) → ofFeed a = ofCsv text := by
  refine ⟨?_, ?_, ?_, fun text htext => ?_⟩
  · rw [readChunks_eq_decode ha, ofFeed]
  · rw [readChunks_eq_decode hb, ofFeed]
  · rw [ofFeed, ofFeed, decode_eq_of_recut h]
  · rw [ofCsv, ofFeed, ofFeed, decode_eq_of_recut htext]

/-- The cuts are behind a carriage return, within a character and between two quotes. -/
theorem ofFeed_eq_of_recut_within_row :
    ofFeed ⟨[Utf8.encode "username\r", Utf8.encode "\n\"" ++ [0xC3], 0xA9 :: Utf8.encode "\"",
      Utf8.encode "\"\"\n"], .complete⟩ = ofCsv "username\r\n\"é\"\"\"\n" := by
  refine (ofFeed_eq_of_recut (a := ⟨_, _⟩)
    (b := .inChunks 4 (Utf8.encode "username\r\n\"é\"\"\"\n"))
    ⟨?_, rfl, ?_⟩ ?_ ?_).2.2.2 _ ⟨?_, rfl, ?_⟩
  all_goals decide

/-- A first chunk that is the byte-order mark alone hides what follows it. -/
theorem recut_behind_mark_differs :
    ¬∀ a b : Feed, (∀ chunk ∈ a.chunks, chunk ≠ []) → (∀ chunk ∈ b.chunks, chunk ≠ []) →
      a.bytes = b.bytes → a.ending = b.ending →
      (Feed.byteOrderMark <+: a.bytes → 3 ≤ a.firstLength ∧ 3 ≤ b.firstLength) →
      ofFeed a = ofFeed b := by
  intro h
  have heq := h (.inChunks 3 (Utf8.encode "\uFEFFusername\n"))
    (.ofBytes (Utf8.encode "\uFEFFusername\n"))
    (by decide) (by decide) (by decide) rfl (by decide)
  rw [ofFeed_of_mark (by decide)] at heq
  cases heq

end Roster

end RoomDraw
