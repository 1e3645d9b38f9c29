import Mathlib.Data.List.DropRight
import Mathlib.Data.List.Forall2
import RoomDraw.Json.Record
import RoomDraw.Proofs.Json.Text

/-!
# Values that are read back

What it takes for a reader to take a text for a value: strings, arrays and records. Every reader
passes over the space before its value, and nothing depends on the space that it leaves behind it,
so that the parts of a value may be set apart by any space.
-/

namespace RoomDraw

namespace Json

/-! ### Space -/

/-- Only characters that may stand between the parts of a value. -/
def Blank (space : List Char) : Prop := ∀ c ∈ space, isSpace c = true

lemma Blank.nil : Blank [] := by simp [Blank]

@[simp] lemma skipSpace_nil : skipSpace [] = [] := rfl

lemma skipSpace_blank_append {space : List Char} (h : Blank space) (s : List Char) :
    skipSpace (space ++ s) = skipSpace s :=
  List.dropWhile_append_of_pos h

@[simp] lemma skipSpace_cons_of_not {c : Char} {s : List Char} (h : isSpace c = false) :
    skipSpace (c :: s) = c :: s :=
  List.dropWhile_cons_of_neg (by simp [h])

@[simp] lemma skipSpace_skipSpace (s : List Char) : skipSpace (skipSpace s) = skipSpace s :=
  List.dropWhile_idempotent _ s

/-- A text that begins, behind any space, with something else than the end of an array. -/
def Opens (s : List Char) : Prop := ∃ c t, skipSpace s = c :: t ∧ c ≠ ']'

lemma Opens.blank_append {space s : List Char} (h : Opens s) (hspace : Blank space) :
    Opens (space ++ s) := by
  rwa [Opens, skipSpace_blank_append hspace]

lemma Opens.append {s : List Char} (h : Opens s) (rest : List Char) : Opens (s ++ rest) := by
  obtain ⟨c, t, ht, hc⟩ := h
  refine ⟨c, t ++ rest, ?_, hc⟩
  rw [skipSpace] at ht ⊢
  rw [List.dropWhile_append, ht]
  rfl

/-! ### Reading -/

variable {α : Type}

/-- One reading after another gives a result only if both do. -/
lemma bind_eq_ok {ε β : Type} {x : Except ε α} {f : α → Except ε β} {b : β}
    (h : x >>= f = .ok b) : ∃ a, x = .ok a ∧ f a = .ok b := by
  cases x with
  | error e => cases h
  | ok a => exact ⟨a, rfl, h⟩

lemma map_eq_ok {ε β : Type} {x : Except ε α} {f : α → β} {b : β} (h : x.map f = .ok b) :
    ∃ a, x = .ok a ∧ f a = b := by
  cases x with
  | error e => cases h
  | ok a => exact ⟨a, rfl, Except.ok.inj h⟩

/-- A reader takes a text for a value, whatever follows; it leaves nothing of the text but space. -/
def Reads (reader : Reader α) (written : List Char) (a : α) : Prop :=
  ∀ rest, ∃ left, reader (written ++ rest) = .ok (a, left) ∧ skipSpace left = skipSpace rest

/-- A reader passes over space before anything else. -/
def SkipsSpace (reader : Reader α) : Prop := ∀ s, reader (skipSpace s) = reader s

lemma Reads.blank_append {reader : Reader α} {written space : List Char} {a : α}
    (h : Reads reader written a) (hskip : SkipsSpace reader) (hspace : Blank space) :
    Reads reader (space ++ written) a := by
  intro rest
  have heq : reader (space ++ written ++ rest) = reader (written ++ rest) := by
    rw [← hskip, List.append_assoc, skipSpace_blank_append hspace, hskip]
  rw [heq]
  exact h rest

/-- A reader that goes on to make something of what another reads. -/
lemma Reads.map {β : Type} {reader : Reader α} {written : List Char} {a : α}
    (h : Reads reader written a) (f : α → β) :
    Reads (fun s => do let (a, s) ← reader s; return (f a, s)) written (f a) := by
  intro rest
  obtain ⟨left, hread, hleft⟩ := h rest
  exact ⟨left, by simp [hread, bind, Except.bind, pure, Except.pure], hleft⟩

lemma SkipsSpace.map {β : Type} {reader : Reader α} (h : SkipsSpace reader) (f : α → β) :
    SkipsSpace (fun s => do let (a, s) ← reader s; return (f a, s)) := by
  intro s
  simp only [h s]

lemma skipsSpace_text (expected : String) : SkipsSpace (text expected) := by
  intro s
  simp only [text, skipSpace_skipSpace]

lemma skipsSpace_array (bound : Nat) (item : Reader α) : SkipsSpace (array bound item) := by
  intro s
  simp only [array, skipSpace_skipSpace]

lemma skipsSpace_record (expected : String) (fields : List (Field α)) (bound : Nat) (blank : α) :
    SkipsSpace (record expected fields bound blank) := by
  intro s
  simp only [record, skipSpace_skipSpace]

/-! ### Strings -/

/-- A string that is read from behind its opening quote is read as a value. -/
lemma reads_text {expected s : String} {spelled : List Char}
    (h : ∀ rest, readText [] (spelled ++ '"' :: rest) = .ok (s, rest)) :
    Reads (text expected) ('"' :: spelled ++ ['"']) s := by
  intro rest
  refine ⟨rest, ?_, rfl⟩
  rw [text, List.append_assoc, List.cons_append, skipSpace_cons_of_not (by decide)]
  exact h rest

/-! ### Arrays -/

/-- Texts with commas between them. -/
def joined : List (List Char) → List Char
  | [] => []
  | w :: ws => w ++ ws.flatMap (',' :: ·)

lemma nextElement_first {s : List Char} (h : Opens s) :
    nextElement true s = .ok (true, skipSpace s) := by
  obtain ⟨c, t, ht, hc⟩ := h
  simp [nextElement, ht, hc]

lemma nextElement_comma {s w : List Char} (h : Opens w) (hs : skipSpace s = ',' :: w) :
    nextElement false s = .ok (true, skipSpace w) := by
  obtain ⟨c, t, ht, hc⟩ := h
  simp only [nextElement, hs]
  rw [if_neg (by decide), if_neg (by decide), if_pos trivial, ht]
  split
  · rename_i heq
    cases heq
  · rename_i heq
    exact absurd (List.cons.inj heq).1 hc
  · rfl

lemma nextElement_end (first : Bool) {s rest : List Char} (hs : skipSpace s = ']' :: rest) :
    nextElement first s = .ok (false, ']' :: rest) := by
  simp [nextElement, hs]

lemma closeArray_end (rest : List Char) : closeArray (']' :: rest) = .ok ((), rest) := by
  simp [closeArray, show isSpace ']' = false by decide]

/-- The elements behind the first are read, each behind its comma, up to the closing bracket. -/
lemma elements_reads {item : Reader α} (hskip : SkipsSpace item) {ws : List (List Char)}
    {as : List α} (h : List.Forall₂ (Reads item) ws as) (hopens : ∀ w ∈ ws, Opens w)
    {bound : Nat} {before : List α} {space rest s : List Char} (hbound : ws.length < bound)
    (hbefore : before ≠ []) (hspace : Blank space)
    (hs : skipSpace s = skipSpace (ws.flatMap (',' :: ·) ++ space ++ ']' :: rest)) :
    elements item bound before s = .ok (before.reverse ++ as, ']' :: rest) := by
  induction h generalizing bound before s with
  | nil =>
    obtain ⟨bound, rfl⟩ := Nat.exists_eq_succ_of_ne_zero (Nat.ne_of_gt hbound)
    rw [List.flatMap_nil, List.nil_append, skipSpace_blank_append hspace,
      skipSpace_cons_of_not (by decide)] at hs
    rw [elements, nextElement_end _ hs]
    simp [bind, Except.bind, pure, Except.pure]
  | @cons w a ws as hw _ ih =>
    obtain ⟨bound, rfl⟩ := Nat.exists_eq_succ_of_ne_zero (Nat.ne_of_gt (Nat.zero_lt_of_lt hbound))
    set others := ws.flatMap (',' :: ·) ++ space ++ ']' :: rest with hothers
    have hcomma : skipSpace s = ',' :: (w ++ others) := by
      rw [hs, hothers, List.flatMap_cons, List.cons_append, List.cons_append, List.cons_append,
        skipSpace_cons_of_not (by decide), List.append_assoc, List.append_assoc, List.append_assoc]
    obtain ⟨left, hread, hleft⟩ := hw others
    have hitem : item (skipSpace (w ++ others)) = .ok (a, left) := (hskip _).trans hread
    have hnext := ih (fun w hw => hopens w (List.mem_cons_of_mem _ hw))
      (Nat.lt_of_succ_lt_succ hbound) (List.cons_ne_nil a before) hleft
    have hempty : before.isEmpty = false := by simpa using hbefore
    rw [elements, hempty, nextElement_comma ((hopens w List.mem_cons_self).append others) hcomma]
    simp only [bind, Except.bind, hitem, hnext]
    simp

/-- An array of texts that are read as its elements is read as the array. -/
lemma reads_array {item : Reader α} (hskip : SkipsSpace item) {ws : List (List Char)}
    {as : List α} (h : List.Forall₂ (Reads item) ws as) (hopens : ∀ w ∈ ws, Opens w) {bound : Nat}
    {space : List Char} (hbound : ws.length < bound) (hspace : Blank space) :
    Reads (array bound item) ('[' :: joined ws ++ space ++ [']']) as := by
  intro rest
  refine ⟨rest, ?_, rfl⟩
  obtain ⟨bound, rfl⟩ := Nat.exists_eq_succ_of_ne_zero (Nat.ne_of_gt (Nat.zero_lt_of_lt hbound))
  have helements : elements item (bound + 1) [] (joined ws ++ space ++ ']' :: rest) =
      .ok (as, ']' :: rest) := by
    cases h with
    | nil =>
      have hend : skipSpace (joined [] ++ space ++ ']' :: rest) = ']' :: rest := by
        rw [joined, List.nil_append, skipSpace_blank_append hspace,
          skipSpace_cons_of_not (by decide)]
      rw [elements, nextElement_end _ hend]
      rfl
    | @cons w a ws as hw hws =>
      obtain ⟨left, hread, hleft⟩ := hw (ws.flatMap (',' :: ·) ++ space ++ ']' :: rest)
      have hrest := elements_reads hskip hws (fun w hw => hopens w (List.mem_cons_of_mem _ hw))
        (Nat.lt_of_succ_lt_succ hbound) (List.cons_ne_nil a []) hspace hleft
      rw [joined, List.append_assoc, List.append_assoc, ← List.append_assoc (ws.flatMap _),
        elements, List.isEmpty_nil, nextElement_first ((hopens w List.mem_cons_self).append _)]
      simp only [bind, Except.bind, (hskip _).trans hread, hrest]
      simp
  rw [array, List.append_assoc, List.append_assoc, List.cons_append,
    skipSpace_cons_of_not (by decide)]
  simp only [List.append_assoc] at helements
  simp only [List.singleton_append, bind, Except.bind, helements, closeArray_end]
  rfl

/-! ### Records -/

variable {σ : Type}

/-- A key is found behind the comma that parts it from the member before it, if there is one. -/
lemma nextKey_quote (first : Bool) {space s t : List Char} (hspace : Blank space)
    (hs : skipSpace s = skipSpace ((if first then [] else [',']) ++ space ++ '"' :: t)) :
    nextKey first s = .ok (true, t) := by
  cases first with
  | true =>
    rw [if_pos rfl, List.nil_append, skipSpace_blank_append hspace,
      skipSpace_cons_of_not (by decide)] at hs
    simp [nextKey, hs, nextKey.quote]
  | false =>
    have hkey : skipSpace (space ++ '"' :: t) = '"' :: t := by
      rw [skipSpace_blank_append hspace, skipSpace_cons_of_not (by decide)]
    rw [if_neg (by decide), List.append_assoc, List.singleton_append,
      skipSpace_cons_of_not (by decide)] at hs
    simp [nextKey, hs, hkey, nextKey.quote]

lemma nextKey_end (first : Bool) {s rest : List Char} (hs : skipSpace s = '}' :: rest) :
    nextKey first s = .ok (false, '}' :: rest) := by
  simp [nextKey, hs]

/-- A member that the record knows is read into its field. -/
lemma members_field {fields : List (Field σ)} {skip : Reader Unit} {bound : Nat} {first : Bool}
    {draft draft' : σ} {field : Field σ} {key : String} {space gap spelled w rest s : List Char}
    (hspelled : ∀ rest, readText [] (spelled ++ '"' :: rest) = .ok (key, rest))
    (hfind : fields.find? (·.name == key) = some field) (hgiven : field.given draft = false)
    (hfill : Reads (field.fill draft) w draft') (hspace : Blank space) (hgap : Blank gap)
    (hs : skipSpace s = skipSpace ((if first then [] else [',']) ++ space ++
      '"' :: (spelled ++ '"' :: (gap ++ ':' :: (w ++ rest))))) :
    ∃ left, skipSpace left = skipSpace rest ∧
      members fields skip (bound + 1) first draft s =
        members fields skip bound false draft' left := by
  obtain ⟨left, hread, hleft⟩ := hfill rest
  have hcolon : skipSpace (gap ++ ':' :: (w ++ rest)) = ':' :: (w ++ rest) := by
    rw [skipSpace_blank_append hgap, skipSpace_cons_of_not (by decide)]
  refine ⟨left, hleft, ?_⟩
  rw [members, nextKey_quote first hspace hs]
  simp [part, bind, Except.bind, hspelled, hfind, hgiven, members.afterColon, keyThen, hcolon,
    pure, Except.pure, hread]

/-- The members end at the closing bracket, if no field is missing. -/
lemma members_end {fields : List (Field σ)} {skip : Reader Unit} (bound : Nat) (first : Bool)
    {draft : σ} {s rest : List Char} (hmissing : missing? fields draft = none)
    (hs : skipSpace s = '}' :: rest) :
    members fields skip (bound + 1) first draft s = .ok (draft, '}' :: rest) := by
  rw [members, nextKey_end first hs]
  simp [part, bind, Except.bind, hmissing, pure, Except.pure]

lemma closeObject_end (rest : List Char) : closeObject ('}' :: rest) = .ok ((), rest) := by
  simp [closeObject, show isSpace '}' = false by decide]

/-- Members that are read up to the closing bracket are read as a record. -/
lemma reads_record {expected : String} {fields : List (Field σ)} {bound : Nat} {blank draft : σ}
    {body : List Char}
    (h : ∀ rest, members fields (skipValue bound) bound true blank (body ++ '}' :: rest) =
      .ok (draft, '}' :: rest)) :
    Reads (record expected fields bound blank) ('{' :: body ++ ['}']) draft := by
  intro rest
  refine ⟨rest, ?_, rfl⟩
  rw [record, List.append_assoc, List.cons_append, skipSpace_cons_of_not (by decide)]
  simp [h, closed, closeObject_end, bind, Except.bind, pure, Except.pure]

end Json

end RoomDraw
