import RoomDraw.Manifest.Reader
import RoomDraw.Proofs.Json.Values

/-!
# Manifests are read back from their texts

A written manifest is taken apart in the order in which it was put together: brackets around texts
with commas between them, members of a key and a value, entries of three members, and a manifest of
one. Both layouts are covered at once, since they differ in space only.
-/

namespace RoomDraw

open Json

/-! ### Layouts -/

lemma Layout.blank_lineBreak (layout : Layout) (depth : Nat) : Blank (layout.lineBreak depth) := by
  cases layout with
  | compact => exact Blank.nil
  | pretty =>
    intro c hc
    rcases List.mem_cons.mp hc with rfl | hc
    · rfl
    · rw [(List.mem_replicate.mp hc).2]
      rfl

/-- What follows the colon between a key and its value. -/
def Layout.gap : Layout → List Char
  | compact => []
  | pretty => [' ']

lemma Layout.colon_eq (layout : Layout) : layout.colon = ':' :: layout.gap := by
  cases layout <;> rfl

lemma Layout.blank_gap (layout : Layout) : Blank layout.gap := by
  cases layout <;> simp [gap, Blank, isSpace]

/-- What stands before the closing bracket around so many values. -/
def Layout.lastBreak (layout : Layout) (depth : Nat) (vs : List (List Char)) : List Char :=
  if vs.isEmpty then [] else layout.lineBreak depth

lemma Layout.blank_lastBreak (layout : Layout) (depth : Nat) (vs : List (List Char)) :
    Blank (layout.lastBreak depth vs) := by
  unfold lastBreak
  split
  · exact Blank.nil
  · exact layout.blank_lineBreak depth

/-- Bracketed values are texts with commas between them, each behind a line break. -/
lemma Layout.bracketed_eq (layout : Layout) (opening closing : Char) (depth : Nat)
    (vs : List (List Char)) :
    layout.bracketed opening closing depth vs =
      opening :: joined (vs.map (layout.lineBreak (depth + 1) ++ ·)) ++
        layout.lastBreak depth vs ++ [closing] := by
  cases vs with
  | nil => rfl
  | cons v vs => simp [bracketed, joined, lastBreak, List.flatMap_map, List.append_assoc]

/-! ### Lengths -/

lemma length_le_length_joined (ws : List (List Char)) : ws.length ≤ (joined ws).length + 1 := by
  have hothers : ∀ ws : List (List Char), ws.length ≤ (ws.flatMap (',' :: ·)).length := by
    intro ws
    induction ws with
    | nil => simp
    | cons w ws ih =>
      simp only [List.flatMap_cons, List.length_append, List.length_cons]
      omega
  cases ws with
  | nil => simp
  | cons w ws =>
    have := hothers ws
    simp only [joined, List.length_append, List.length_cons]
    omega

lemma length_le_joined_of_mem {w : List Char} {ws : List (List Char)} (h : w ∈ ws) :
    w.length ≤ (joined ws).length := by
  cases ws with
  | nil => simp at h
  | cons v ws =>
    rw [joined, List.length_append]
    rcases List.mem_cons.mp h with rfl | h
    · omega
    · obtain ⟨s, t, rfl⟩ := List.append_of_mem h
      simp only [List.flatMap_append, List.flatMap_cons, List.length_append, List.length_cons]
      omega

/-- A bracketed list is shorter than its text, and so is each of its values. -/
lemma Layout.length_lt_bracketed (layout : Layout) (opening closing : Char) (depth : Nat)
    (vs : List (List Char)) :
    vs.length < (layout.bracketed opening closing depth vs).length := by
  have := length_le_length_joined (vs.map (layout.lineBreak (depth + 1) ++ ·))
  rw [List.length_map] at this
  simp only [bracketed_eq, List.length_append, List.length_cons, List.length_nil]
  omega

lemma Layout.length_lt_bracketed_of_mem (layout : Layout) (opening closing : Char) (depth : Nat)
    {v : List Char} {vs : List (List Char)} (h : v ∈ vs) :
    v.length < (layout.bracketed opening closing depth vs).length := by
  have := length_le_joined_of_mem (List.mem_map_of_mem (f := (layout.lineBreak (depth + 1) ++ ·)) h)
  simp only [List.length_append] at this
  simp only [bracketed_eq, List.length_append, List.length_cons, List.length_nil]
  omega

namespace Manifest

/-! ### Parts of a manifest -/

lemma reads_string (expected s : String) : Reads (text expected) (string s) s :=
  reads_text (readText_spelled s)

lemma opens_string (s : String) : Opens (string s) := by
  refine ⟨'"', s.toList.flatMap escaped ++ ['"'], ?_, by decide⟩
  rw [string, List.cons_append, skipSpace_cons_of_not (by decide)]

lemma opens_bracketed (layout : Layout) (depth : Nat) (vs : List (List Char)) :
    Opens (layout.bracketed '{' '}' depth vs) := by
  rw [layout.bracketed_eq, List.cons_append, List.cons_append]
  exact ⟨'{', _, skipSpace_cons_of_not (by decide), by decide⟩

/-- A written member is read into its field. -/
lemma members_member {σ : Type} (layout : Layout) (depth : Nat) {fields : List (Json.Field σ)}
    {skip : Reader Unit} {bound : Nat} {first : Bool} {draft draft' : σ} {field : Json.Field σ}
    {key : String} {w rest s : List Char}
    (hfind : fields.find? (·.name == key) = some field) (hgiven : field.given draft = false)
    (hfill : Reads (field.fill draft) w draft') (hskip : SkipsSpace (field.fill draft))
    (hs : skipSpace s = skipSpace ((if first then [] else [',']) ++
      (layout.lineBreak depth ++ member layout key w) ++ rest)) :
    ∃ left, skipSpace left = skipSpace rest ∧
      members fields skip (bound + 1) first draft s =
        members fields skip bound false draft' left := by
  have hvalue := hfill.blank_append hskip layout.blank_gap
  refine members_field (readText_spelled key) hfind hgiven hvalue (layout.blank_lineBreak depth)
    Blank.nil ?_
  rw [hs, member, string, layout.colon_eq]
  simp

/-- Members, each with its key and its written value, that fill in the fields of a record one after
the other until none is missing. -/
inductive Fills {σ : Type} (fields : List (Json.Field σ)) : σ → List (String × List Char) → σ → Prop
  | nil {draft : σ} (hmissing : missing? fields draft = none) : Fills fields draft [] draft
  | cons {draft draft' filled : σ} {field : Json.Field σ} {key : String} {w : List Char}
      {ms : List (String × List Char)} (hfind : fields.find? (·.name == key) = some field)
      (hgiven : field.given draft = false) (hfill : Reads (field.fill draft) w draft')
      (hskip : SkipsSpace (field.fill draft)) (h : Fills fields draft' ms filled) :
      Fills fields draft ((key, w) :: ms) filled

/-- The texts of members. -/
def memberTexts (layout : Layout) (ms : List (String × List Char)) : List (List Char) :=
  ms.map fun p => member layout p.1 p.2

/-- The written members are read one after the other, up to the closing bracket. -/
lemma members_of_fills {σ : Type} (layout : Layout) (depth : Nat) {fields : List (Json.Field σ)}
    {skip : Reader Unit} {draft filled : σ} {ms : List (String × List Char)}
    (h : Fills fields draft ms filled) {bound : Nat} {first : Bool} {space rest s : List Char}
    (hbound : ms.length < bound) (hspace : Blank space)
    (hs : skipSpace s = skipSpace ((if first then joined else (·.flatMap (',' :: ·)))
      ((memberTexts layout ms).map (layout.lineBreak depth ++ ·)) ++ space ++ '}' :: rest)) :
    members fields skip bound first draft s = .ok (filled, '}' :: rest) := by
  induction h generalizing bound first s with
  | nil hmissing =>
    obtain ⟨bound, rfl⟩ := Nat.exists_eq_succ_of_ne_zero (Nat.ne_of_gt hbound)
    refine members_end bound first hmissing ?_
    have hnone : (if first then joined else (·.flatMap (',' :: ·))) [] = ([] : List Char) := by
      cases first <;> rfl
    rw [hs, memberTexts, List.map_nil, List.map_nil, hnone, List.nil_append,
      skipSpace_blank_append hspace, skipSpace_cons_of_not (by decide)]
  | @cons draft draft' filled field key w ms hfind hgiven hfill hskip _ ih =>
    obtain ⟨bound, rfl⟩ := Nat.exists_eq_succ_of_ne_zero (Nat.ne_of_gt (Nat.zero_lt_of_lt hbound))
    set others := ((memberTexts layout ms).map (layout.lineBreak depth ++ ·)).flatMap (',' :: ·) ++
      space ++ '}' :: rest with hothers
    have hnext : skipSpace s = skipSpace ((if first then [] else [',']) ++
        (layout.lineBreak depth ++ member layout key w) ++ others) := by
      rw [hs, hothers]
      cases first <;> simp [joined, memberTexts]
    obtain ⟨left, hleft, hstep⟩ : ∃ left, skipSpace left = skipSpace others ∧
        members fields skip (bound + 1) first draft s =
          members fields skip bound false draft' left :=
      members_member layout depth hfind hgiven hfill hskip hnext
    exact hstep.trans (ih (Nat.lt_of_succ_lt_succ hbound) hleft)

/-- A record whose written members fill in its fields is read back. -/
lemma reads_bracketed (layout : Layout) (depth : Nat) {σ : Type} {expected : String}
    {fields : List (Json.Field σ)} {bound : Nat} {blank filled : σ} {ms : List (String × List Char)}
    (h : Fills fields blank ms filled) (hbound : ms.length < bound) :
    Reads (record expected fields bound blank)
      (layout.bracketed '{' '}' depth (memberTexts layout ms)) filled := by
  have hbody : ∀ rest, members fields (skipValue bound) bound true blank
      (joined ((memberTexts layout ms).map (layout.lineBreak (depth + 1) ++ ·)) ++
        layout.lastBreak depth (memberTexts layout ms) ++ '}' :: rest) =
      .ok (filled, '}' :: rest) := by
    intro rest
    exact members_of_fills layout (depth + 1) h hbound (layout.blank_lastBreak depth _) rfl
  rw [layout.bracketed_eq, List.cons_append]
  exact reads_record hbody

/-! ### Entries and manifests -/

/-- The fields of an entry are filled in by its members. -/
lemma fills_entry (layout : Layout) (e : CreationEntry) {bound : Nat}
    (hbound : e.users.length < bound) :
    Fills (EntryDraft.fields bound) .blank
      [("creator", string e.creator), ("name", string e.name),
        ("users", layout.bracketed '[' ']' 3 (e.users.map string))]
      ⟨some e.creator, some e.name, some e.users⟩ := by
  have hstring (s : String) : Reads (text "a string") (string s) s := reads_string _ s
  have hskip := skipsSpace_text "a string"
  have husers : Reads (array bound (text "a string"))
      (layout.bracketed '[' ']' 3 (e.users.map string)) e.users := by
    rw [layout.bracketed_eq]
    refine reads_array hskip ?_ ?_ (by simpa using hbound) (layout.blank_lastBreak 3 _)
    · rw [List.map_map, List.forall₂_map_left_iff]
      exact List.forall₂_same.mpr fun s _ =>
        (hstring s).blank_append hskip (layout.blank_lineBreak 4)
    · intro w hw
      obtain ⟨v, hv, rfl⟩ := List.mem_map.mp hw
      obtain ⟨s, -, rfl⟩ := List.mem_map.mp hv
      exact (opens_string s).blank_append (layout.blank_lineBreak 4)
  let withCreator (t : String) : EntryDraft := ⟨some t, none, none⟩
  let withName (t : String) : EntryDraft := ⟨some e.creator, some t, none⟩
  let withUsers (ts : List String) : EntryDraft := ⟨some e.creator, some e.name, some ts⟩
  refine .cons rfl rfl ((hstring e.creator).map withCreator) (hskip.map withCreator) ?_
  refine .cons rfl rfl ((hstring e.name).map withName) (hskip.map withName) ?_
  exact .cons rfl rfl (husers.map withUsers) ((skipsSpace_array bound _).map withUsers) (.nil rfl)

/-- A written entry is read back. -/
lemma reads_entry (layout : Layout) (e : CreationEntry) {bound : Nat} (hbound : 3 < bound)
    (husers : e.users.length < bound) : Reads (readEntry bound) (entryText layout e) e :=
  (reads_bracketed layout 2 (fills_entry layout e husers) hbound).map EntryDraft.entry

/-- A written manifest is read back. -/
lemma reads_chars (layout : Layout) (m : Manifest) {bound : Nat} (hbound : 3 < bound)
    (hcreators : m.creators.length < bound)
    (husers : ∀ e ∈ m.creators, e.users.length < bound) :
    Reads (read bound) (m.chars layout) m := by
  have hskip : SkipsSpace (readEntry bound) := (skipsSpace_record _ _ _ _).map EntryDraft.entry
  have hentries : Reads (array bound (readEntry bound))
      (layout.bracketed '[' ']' 1 (m.creators.map (entryText layout))) m.creators := by
    rw [layout.bracketed_eq]
    refine reads_array hskip ?_ ?_ (by simpa using hcreators) (layout.blank_lastBreak 1 _)
    · rw [List.map_map, List.forall₂_map_left_iff]
      exact List.forall₂_same.mpr fun e he =>
        (reads_entry layout e hbound (husers e he)).blank_append hskip (layout.blank_lineBreak 2)
    · intro w hw
      obtain ⟨v, hv, rfl⟩ := List.mem_map.mp hw
      obtain ⟨e, -, rfl⟩ := List.mem_map.mp hv
      exact (opens_bracketed layout 2 _).blank_append (layout.blank_lineBreak 2)
  have hfills : Fills (fields bound) none
      [("creators", layout.bracketed '[' ']' 1 (m.creators.map (entryText layout)))]
      (some m.creators) :=
    .cons rfl rfl (hentries.map some) ((skipsSpace_array bound _).map some) (.nil rfl)
  have hone : 1 < bound := by omega
  exact (reads_bracketed layout 0 hfills hone).map fun draft : Draft => Manifest.mk (draft.getD [])

/-! ### Whole texts -/

lemma length_lt_member (layout : Layout) (key : String) (value : List Char) :
    value.length + 2 < (member layout key value).length := by
  simp only [member, string, layout.colon_eq, List.length_append, List.length_cons,
    List.length_nil]
  omega

lemma length_users_lt_entryText (layout : Layout) (e : CreationEntry) :
    e.users.length < (entryText layout e).length := by
  set users := layout.bracketed '[' ']' 3 (e.users.map string) with husers
  calc e.users.length = (e.users.map string).length := by simp
    _ < users.length := layout.length_lt_bracketed '[' ']' 3 _
    _ ≤ (member layout "users" users).length :=
      (Nat.le_add_right _ 2).trans (length_lt_member layout "users" users).le
    _ < (entryText layout e).length :=
      layout.length_lt_bracketed_of_mem '{' '}' 2 (by simp [husers])

lemma length_entries_lt_chars (layout : Layout) (m : Manifest) :
    (layout.bracketed '[' ']' 1 (m.creators.map (entryText layout))).length + 2 <
      (m.chars layout).length :=
  (length_lt_member layout "creators" _).trans
    (layout.length_lt_bracketed_of_mem '{' '}' 0 (List.mem_singleton_self _))

/-- The text of a manifest is a document, and is read to its end, also if space follows it. -/
lemma document_toJson_append (layout : Layout) (m : Manifest) {space : String}
    (hspace : Blank space.toList) : document read (m.toJson layout ++ space) = .ok m := by
  have htext : (m.toJson layout ++ space).toList = m.chars layout ++ space.toList := by
    simp [toJson]
  have hlength : (m.chars layout).length ≤ (m.chars layout ++ space.toList).length := by simp
  have hentries := length_entries_lt_chars layout m
  have hcount := layout.length_lt_bracketed '[' ']' 1 (m.creators.map (entryText layout))
  rw [List.length_map] at hcount
  have husers : ∀ e ∈ m.creators, e.users.length < (m.chars layout ++ space.toList).length + 1 := by
    intro e he
    have hentry : (entryText layout e).length <
        (layout.bracketed '[' ']' 1 (m.creators.map (entryText layout))).length :=
      layout.length_lt_bracketed_of_mem '[' ']' 1 (List.mem_map_of_mem he)
    have := length_users_lt_entryText layout e
    omega
  obtain ⟨left, hread, hleft⟩ := reads_chars layout m (by omega) (by omega) husers space.toList
  have hnone : skipSpace space.toList = [] := by simpa using skipSpace_blank_append hspace []
  rw [hnone] at hleft
  simp only [document, htext, hread, hleft, bind, Except.bind]
  rfl

lemma document_toJson (layout : Layout) (m : Manifest) :
    document read (m.toJson layout) = .ok m := by
  have hnone : Blank "".toList := Blank.nil
  simpa using document_toJson_append layout m hnone

/-- Every manifest is read back from its text, in either layout. -/
theorem ofJson_toJson (layout : Layout) (m : Manifest) : ofJson (m.toJson layout) = .ok m := by
  rw [ofJson, document_toJson]

end Manifest

end RoomDraw
