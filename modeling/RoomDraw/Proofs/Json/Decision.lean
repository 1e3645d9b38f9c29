import RoomDraw.Proofs.Json.Skipping

/-!
# Every text of a value is decided

On the text of a value a reader ends as the value demands: with what the value stands for, or with a
fault if it stands for nothing that the reader is to give. All readers are put together from smaller
ones, and so are their answers (`Answers.bind`).
-/

namespace RoomDraw

namespace Json

variable {β γ : Type}

/-! ### Answers -/

/-- A reading gives a result, as told by the relation, if there is one to give, and fails if there
is none. -/
inductive Answers {ε : Type} (P : β → γ → Prop) : Option β → Except ε γ → Prop where
  | ok {b c} : P b c → Answers P (some b) (.ok c)
  | error {e} : Answers P none (.error e)

lemma Answers.bind {ε β' γ' : Type} {P : β → γ → Prop} {Q : β' → γ' → Prop} {o : Option β}
    {x : Except ε γ} {g : β → Option β'} {f : γ → Except ε γ'} (h : Answers P o x)
    (hnext : ∀ b c, P b c → Answers Q (g b) (f c)) : Answers Q (o >>= g) (x >>= f) := by
  cases h with
  | ok hbc => exact hnext _ _ hbc
  | error => exact .error

lemma Answers.mono {ε : Type} {P Q : β → γ → Prop} {o : Option β} {x : Except ε γ}
    (h : Answers P o x) (hPQ : ∀ b c, P b c → Q b c) : Answers Q o x := by
  cases h with
  | ok hbc => exact .ok (hPQ _ _ hbc)
  | error => exact .error

/-- The same reading, for something that is made of what it gives. -/
lemma Answers.imp {ε β' : Type} {P : β → γ → Prop} {Q : β' → γ → Prop} {o : Option β}
    {x : Except ε γ} {g : β → β'} (h : Answers P o x) (hnext : ∀ b c, P b c → Q (g b) c) :
    Answers Q (do return g (← o)) x := by
  cases h with
  | ok hbc => exact .ok (hnext _ _ hbc)
  | error => exact .error

/-- A reading that goes on with what cannot fail. -/
lemma Answers.andThen {ε γ' : Type} {P : β → γ → Prop} {Q : β → γ' → Prop} {o : Option β}
    {x : Except ε γ} {f : γ → Except ε γ'} (h : Answers P o x)
    (hnext : ∀ b c, P b c → ∃ c', f c = .ok c' ∧ Q b c') : Answers Q o (x >>= f) := by
  cases h with
  | @ok b c hbc =>
    obtain ⟨c', hf, hQ⟩ := hnext b c hbc
    change Answers Q (some b) (f c)
    rw [hf]
    exact .ok hQ
  | error => exact .error

/-- The result, and what is left behind it but for space. -/
def Leaves (rest : List Char) (b : β) (r : β × List Char) : Prop :=
  r.1 = b ∧ skipSpace r.2 = skipSpace rest

/-- The reader ends on the text as demanded, whatever follows. -/
def Decides (reader : Reader β) (w : List Char) (o : Option β) : Prop :=
  ∀ rest, Answers (Leaves rest) o (reader (w ++ rest))

lemma Decides.map {reader : Reader β} {w : List Char} {o : Option β} (h : Decides reader w o)
    (f : β → γ) : Decides (fun s => do let (b, s) ← reader s; return (f b, s)) w (o.map f) := by
  intro rest
  have hmap : o.map f = (do return f (← o)) := by cases o <;> rfl
  rw [hmap]
  have hread := (h rest).andThen (Q := fun b => Leaves rest (f b))
    (f := fun r => .ok (f r.1, r.2)) fun b r hr => ⟨_, rfl, congrArg f hr.1, hr.2⟩
  exact hread.imp fun b c hc => hc

lemma Decides.padded {reader : Reader β} {w before after : List Char} {o : Option β}
    (h : Decides reader w o) (hskip : SkipsSpace reader) (hbefore : Blank before)
    (hafter : Blank after) : Decides reader (before ++ (w ++ after)) o := by
  intro rest
  have hread := h (after ++ rest)
  have hleaves : (Leaves (after ++ rest) : β → β × List Char → Prop) = Leaves rest := by
    funext b r
    rw [Leaves, Leaves, skipSpace_blank_append hafter]
  rw [hleaves] at hread
  rw [← hskip, List.append_assoc, skipSpace_blank_append hbefore, hskip, List.append_assoc]
  exact hread

/-- The reader decides every text of a value that is shorter than the bound. -/
def DecidesBelow (bound : Nat) (reader : Reader β) (dec : Tree String → Option β) : Prop :=
  SkipsSpace reader ∧
    ∀ t w, Written Spelled t w → w.length < bound → Decides reader w (dec t)

lemma DecidesBelow.padded {bound : Nat} {reader : Reader β} {dec : Tree String → Option β}
    (h : DecidesBelow bound reader dec) {t : Tree String} {w : List Char}
    (hw : Padded Spelled t w) (hbound : w.length < bound) : Decides reader w (dec t) := by
  obtain ⟨hbefore, hwritten, hafter⟩ := hw
  refine (h.2 _ _ hwritten ?_).padded h.1 hbefore hafter
  simp only [List.length_append] at hbound
  omega

lemma DecidesBelow.map {bound : Nat} {reader : Reader β} {dec : Tree String → Option β}
    (h : DecidesBelow bound reader dec) (f : β → γ) :
    DecidesBelow bound (fun s => do let (b, s) ← reader s; return (f b, s))
      fun t => (dec t).map f :=
  ⟨h.1.map f, fun t w hw hbound => (h.2 t w hw hbound).map f⟩

/-! ### Values of another form -/

lemma answers_mismatch {P : β → γ → Prop} (expected : String) (s : List Char) :
    Answers P none (mismatch expected s) := by
  rw [mismatch]
  rcases mismatch.look s with f | ⟨found, rest⟩
  · exact .error
  · exact .error

/-! ### Strings -/

lemma decides_text (bound : Nat) (expected : String) :
    DecidesBelow bound (text expected) Tree.string? := by
  refine ⟨skipsSpace_text expected, ?_⟩
  intro t w h _ rest
  by_cases ht : ∃ a, t = .text a
  · obtain ⟨a, rfl⟩ := ht
    cases h with
    | text hw =>
      have hreads : Reads (text expected) ('"' :: _ ++ ['"']) a :=
        reads_text (readText_of_spelled hw)
      obtain ⟨left, hread, hleft⟩ := hreads rest
      rw [List.cons_append] at hread
      rw [hread]
      exact .ok ⟨rfl, hleft⟩
  · obtain ⟨c, v, rfl, hspace, -, htext, -⟩ := h.exists_cons
    have hnone : t.string? = none := by
      cases t with
      | text a => exact absurd ⟨a, rfl⟩ ht
      | _ => rfl
    rw [hnone, text, List.cons_append, skipSpace_cons_of_not hspace]
    split
    · exact .error
    · next heq => exact absurd (htext (List.cons.inj heq).1) ht
    · exact answers_mismatch expected _

/-! ### Arrays -/

/-- What is left of an array, from the comma of the next element on or from the first element on. -/
def AtElements (bound : Nat) (first : Bool) (ts : List (Tree String)) (s rest : List Char) : Prop :=
  (ts = [] ∧ skipSpace s = ']' :: rest) ∨
    ∃ w, Elements Spelled ts w ∧ w.length < bound ∧
      skipSpace s = skipSpace ((if first then [] else [',']) ++ (w ++ ']' :: rest))

section

variable {bound : Nat} {first : Bool} {t : Tree String} {ts : List (Tree String)}
  {s rest : List Char}

lemma AtElements.stop (h : AtElements bound first [] s rest) : skipSpace s = ']' :: rest := by
  obtain ⟨-, hs⟩ | ⟨w, hw, -⟩ := h
  · exact hs
  · cases hw

lemma AtElements.opens (h : AtElements bound first (t :: ts) s rest) : Opens s := by
  obtain ⟨hnil, -⟩ | ⟨w, hw, -, hs⟩ := h
  · cases hnil
  · cases first with
    | true =>
      obtain ⟨c, v, hv, hc⟩ := hw.opens.append (']' :: rest)
      exact ⟨c, v, hs.trans hv, hc⟩
    | false => exact ⟨',', _, hs, by decide⟩

/-- The next element is there, and behind it the others are left. -/
lemma AtElements.next (h : AtElements bound first (t :: ts) s rest) :
    ∃ w after, nextElement first s = .ok (true, skipSpace (w ++ after)) ∧ Padded Spelled t w ∧
      w.length < bound ∧
      ∀ left, skipSpace left = skipSpace after → AtElements bound false ts left rest := by
  obtain ⟨hnil, -⟩ | ⟨w, hw, hbound, hs⟩ := h
  · cases hnil
  have hnext {v after : List Char} (hv : Opens v)
      (hs : skipSpace s = skipSpace ((if first then [] else [',']) ++ (v ++ after))) :
      nextElement first s = .ok (true, skipSpace (v ++ after)) := by
    cases first with
    | true =>
      have hfirst : Opens s := by
        obtain ⟨c, u, hu, hc⟩ := hv.append after
        exact ⟨c, u, hs.trans hu, hc⟩
      rw [nextElement_first hfirst]
      exact congrArg (fun u => Except.ok (true, u)) hs
    | false => exact nextElement_comma (hv.append after) hs
  cases hw with
  | last hw => exact ⟨_, _, hnext hw.opens hs, hw, hbound, fun left hleft => .inl ⟨rfl, hleft⟩⟩
  | @cons _ v _ others hv hothers =>
    simp only [List.length_append, List.length_cons] at hbound
    rw [List.append_assoc, List.cons_append] at hs
    exact ⟨v, _, hnext hv.opens hs, hv, by omega,
      fun left hleft => .inr ⟨others, hothers, by omega, hleft⟩⟩

end

lemma Padded.length_pos {t : Tree String} {w : List Char} (h : Padded Spelled t w) :
    0 < w.length := by
  refine List.length_pos_iff.mpr ?_
  rintro rfl
  obtain ⟨c, v, hv, -⟩ := h.opens
  cases hv

lemma Elements.length_le {ts : List (Tree String)} {w : List Char} (h : Elements Spelled ts w) :
    ts.length ≤ w.length := by
  induction ts generalizing w with
  | nil => simp
  | cons t ts ih =>
    cases h with
    | last hw => exact hw.length_pos
    | cons hw hrest =>
      have := ih hrest
      simp only [List.length_append, List.length_cons]
      omega

/-- The elements are read one after the other, up to the closing bracket. -/
lemma answers_elements {bound : Nat} {item : Reader β} {dec : Tree String → Option β}
    (hitem : DecidesBelow bound item dec) {ts : List (Tree String)} {count : Nat} {before : List β}
    {s rest : List Char} (hcount : ts.length < count)
    (hs : AtElements bound before.isEmpty ts s rest) :
    Answers (fun bs r => r = (before.reverse ++ bs, ']' :: rest)) (ts.mapM dec)
      (elements item count before s) := by
  -- only before the first element nothing has been read, so that `before` tells which one is next
  induction ts generalizing count before s with
  | nil =>
    obtain ⟨count, rfl⟩ := Nat.exists_eq_succ_of_ne_zero (Nat.ne_of_gt hcount)
    rw [elements, nextElement_end _ hs.stop]
    exact .ok (by simp)
  | cons t ts ih =>
    obtain ⟨count, rfl⟩ := Nat.exists_eq_succ_of_ne_zero (Nat.ne_of_gt (Nat.zero_lt_of_lt hcount))
    obtain ⟨w, after, hnext, hw, hbound, hothers⟩ := hs.next
    have hread := hitem.padded hw hbound after
    rw [← hitem.1] at hread
    rw [elements, hnext, List.mapM_cons]
    apply hread.bind
    intro b r hr
    have hleft : AtElements bound (r.1 :: before).isEmpty ts r.2 rest := hothers _ hr.2
    refine (ih (Nat.lt_of_succ_lt_succ hcount) hleft).imp ?_
    rintro bs _ rfl
    simp [hr.1]

/-- An array of values that a reader decides is decided. -/
lemma decides_array {bound : Nat} {item : Reader β} {dec : Tree String → Option β}
    (hitem : DecidesBelow bound item dec) :
    DecidesBelow bound (array bound item) (Tree.list? dec) := by
  refine ⟨skipsSpace_array bound item, ?_⟩
  intro t w h hbound rest
  have hread {ts : List (Tree String)} {inner : List Char} (hlength : ts.length < bound)
      (hinner : AtElements bound true ts (inner ++ ']' :: rest) rest) :
      Answers (Leaves rest) (ts.mapM dec) (array bound item ('[' :: (inner ++ [']']) ++ rest)) := by
    rw [array, List.cons_append, List.append_assoc, List.singleton_append,
      skipSpace_cons_of_not (by decide)]
    have hstart : AtElements bound ([] : List β).isEmpty ts (inner ++ ']' :: rest) rest := hinner
    refine (answers_elements hitem hlength hstart).andThen ?_
    rintro as _ rfl
    exact ⟨(as, rest), by simp [closeArray_end, bind, Except.bind, pure, Except.pure], rfl, rfl⟩
  by_cases ht : ∃ ts, t = .array ts
  · obtain ⟨ts, rfl⟩ := ht
    cases h with
    | @emptyArray space hspace =>
      refine hread (by simp only [List.length_nil]; omega) (.inl ⟨rfl, ?_⟩)
      rw [skipSpace_blank_append hspace, skipSpace_cons_of_not (by decide)]
    | @array _ inner hinner =>
      simp only [List.length_cons, List.length_append] at hbound
      have := hinner.length_le
      exact hread (by omega) (.inr ⟨inner, hinner, by omega, rfl⟩)
  · obtain ⟨c, v, rfl, hspace, -, -, harray, -⟩ := h.exists_cons
    have hnone : t.list? dec = none := by
      cases t with
      | array ts => exact absurd ⟨ts, rfl⟩ ht
      | _ => rfl
    rw [hnone, array, List.cons_append, skipSpace_cons_of_not hspace]
    split
    · exact .error
    · next heq => exact absurd (harray (List.cons.inj heq).1) ht
    · exact answers_mismatch "a sequence" _

/-! ### Records -/

section

variable {σ : Type}

/-- The record that the elements of an array make, if there is one for each field, in the order of
the fields. `put` tells what a value makes of the field of a name. -/
def placed (put : String → σ → Tree String → Option σ) :
    List String → List (Tree String) → σ → Option σ
  | [], [], draft => some draft
  | name :: names, t :: ts, draft => do placed put names ts (← put name draft t)
  | _, _, _ => none

lemma placed_eq_none {put : String → σ → Tree String → Option σ} {names : List String}
    {ts : List (Tree String)} {draft : σ} (h : ts.length ≠ names.length) :
    placed put names ts draft = none := by
  induction names generalizing ts draft with
  | nil =>
    cases ts with
    | nil => exact absurd rfl h
    | cons t ts => rfl
  | cons name names ih =>
    cases ts with
    | nil => rfl
    | cons t ts =>
      rw [placed]
      cases put name draft t with
      | none => rfl
      | some d => exact ih fun hlength => h (congrArg (· + 1) hlength)

/-- The record that the members of an object make, if no field is given twice and none is missing.
Other members count for nothing. -/
def absorbed (put : String → σ → Tree String → Option σ) (fields : List (Field σ)) :
    List (String × Tree String) → σ → Option σ
  | [], draft => if (missing? fields draft).isSome then none else some draft
  | (key, t) :: ms, draft =>
    match fields.find? (·.name == key) with
    | some field =>
      if field.given draft then none else do absorbed put fields ms (← put field.name draft t)
    | none => absorbed put fields ms draft

/-- The record that a value stands for. -/
def Tree.record? (put : String → σ → Tree String → Option σ) (fields : List (Field σ)) (blank : σ) :
    Tree String → Option σ
  | array ts => placed put (fields.map (·.name)) ts blank
  | object ms => absorbed put fields ms blank
  | _ => none

/-- Every field is filled in as `put` tells. -/
def Fillable (bound : Nat) (put : String → σ → Tree String → Option σ) (fields : List (Field σ)) :
    Prop :=
  ∀ field ∈ fields, ∀ draft, DecidesBelow bound (field.fill draft) (put field.name draft)

variable {put : String → σ → Tree String → Option σ} {fields : List (Field σ)} {bound : Nat}
  {first : Bool} {draft : σ} {s rest : List Char}

lemma closed_part_bind (close : Reader Unit) (x : Except Fault γ)
    (f : γ → Except Misread (σ × List Char)) :
    closed close (part x >>= f) = (x >>= fun a => closed close (f a)) := by
  cases x <;> rfl

/-- Members that do not make the record are reported, whatever the record is closed with. -/
lemma answers_misfit {P : σ → σ × List Char → Prop} (close : Reader Unit) (cause : Cause)
    (s : List Char) : Answers P none (closed close (.error (.misfit cause s))) := by
  rw [closed]
  split <;> exact .error

/-- The array cannot be closed before an element. -/
lemma AtElements.answers_closeArray {t : Tree String} {ts : List (Tree String)} {P : β → γ → Prop}
    {f : Unit × List Char → Except Fault γ} (h : AtElements bound first (t :: ts) s rest) :
    Answers P none (closeArray s >>= f) := by
  have herror : ∃ e, closeArray s = .error e := by
    obtain ⟨c, u, hu, hc⟩ := h.opens
    rw [closeArray, hu]
    split
    · exact ⟨_, rfl⟩
    · next heq => exact absurd (List.cons.inj heq).1 hc
    · split <;> exact ⟨_, rfl⟩
    · exact ⟨_, rfl⟩
  obtain ⟨e, he⟩ := herror
  rw [he]
  exact .error

/-- The elements are read into the fields, up to the end of the array. -/
lemma answers_inOrder (expected : String) (hfields : Fillable bound put fields) {read : Nat}
    {ts : List (Tree String)} (hs : AtElements bound (read == 0) ts s rest) :
    Answers (fun d r => r = (d, rest)) (placed put (fields.map (·.name)) ts draft)
      (closed closeArray (inOrder expected read fields draft s)) := by
  induction fields generalizing read ts draft s with
  | nil =>
    cases ts with
    | nil =>
      have hclose : closeArray s = .ok ((), rest) := by simp only [closeArray, hs.stop]
      simp only [inOrder, closed, hclose]
      exact .ok rfl
    | cons t ts => exact hs.answers_closeArray
  | cons field fields ih =>
    cases ts with
    | nil =>
      rw [inOrder, nextElement_end _ hs.stop]
      exact answers_misfit _ _ _
    | cons t ts =>
      obtain ⟨w, after, hnext, hw, hbound, hothers⟩ := hs.next
      have hfield := hfields field List.mem_cons_self draft
      have hread := hfield.padded hw hbound after
      rw [← hfield.1] at hread
      rw [inOrder, hnext]
      change Answers _ _ (closed closeArray (part (field.fill draft (skipSpace (w ++ after))) >>=
        fun r => inOrder expected (read + 1) fields r.1 r.2))
      rw [closed_part_bind]
      apply hread.bind
      intro d r hr
      rw [← hr.1]
      exact ih (fun f hf => hfields f (List.mem_cons_of_mem _ hf)) (hothers r.2 hr.2)

/-- What is left of an object, from the comma of the next member on or from the first member on. -/
def AtMembers (bound : Nat) (first : Bool) (ms : List (String × Tree String))
    (s rest : List Char) : Prop :=
  (ms = [] ∧ skipSpace s = '}' :: rest) ∨
    ∃ w, Members Spelled ms w ∧ w.length < bound ∧
      skipSpace s = skipSpace ((if first then [] else [',']) ++ (w ++ '}' :: rest))

lemma AtMembers.stop (h : AtMembers bound first [] s rest) : skipSpace s = '}' :: rest := by
  obtain ⟨-, hs⟩ | ⟨w, hw, -⟩ := h
  · exact hs
  · cases hw

/-- The key of the next member is there, and its value, and behind it the others are left. -/
lemma AtMembers.next {key : String} {t : Tree String} {ms : List (String × Tree String)}
    (h : AtMembers bound first ((key, t) :: ms) s rest) :
    ∃ quoted colon w after, nextKey first s = .ok (true, quoted) ∧
      readText [] quoted = .ok (key, colon) ∧
      keyThen (fun s => .ok ((), s)) colon = .ok ((), w ++ after) ∧ Padded Spelled t w ∧
      w.length < bound ∧ Delimited after ∧
      ∀ left, skipSpace left = skipSpace after → AtMembers bound false ms left rest := by
  obtain ⟨hnil, -⟩ | ⟨w, hw, hbound, hs⟩ := h
  · cases hnil
  have hkey {k v after : List Char} (hk : KeyText Spelled key k)
      (hs : skipSpace s = skipSpace ((if first then [] else [',']) ++ (k ++ (v ++ after)))) :
      ∃ quoted colon, nextKey first s = .ok (true, quoted) ∧
        readText [] quoted = .ok (key, colon) ∧
        keyThen (fun s => .ok ((), s)) colon = .ok ((), v ++ after) := by
    obtain @⟨before, u, gap, hbefore, hu, hgap⟩ := hk
    refine ⟨_, _, nextKey_quote first hbefore (t := u ++ '"' :: (gap ++ ':' :: (v ++ after))) ?_,
      readText_of_spelled hu _, keyThen_eq rfl rfl hgap⟩
    rw [hs]
    simp
  cases hw with
  | last hk hw =>
    rw [List.append_assoc] at hs
    simp only [List.length_append] at hbound
    obtain ⟨quoted, colon, hnext, hread, hcolon⟩ := hkey hk hs
    exact ⟨quoted, colon, _, _, hnext, hread, hcolon, hw, by omega, delimited_closing .object rest,
      fun left hleft => .inl ⟨rfl, hleft⟩⟩
  | @cons _ _ _ v _ others hk hv hothers =>
    rw [List.append_assoc, List.append_assoc, List.cons_append] at hs
    simp only [List.length_append, List.length_cons] at hbound
    obtain ⟨quoted, colon, hnext, hread, hcolon⟩ := hkey hk hs
    exact ⟨quoted, colon, v, _, hnext, hread, hcolon, hv, by omega, delimited_comma _,
      fun left hleft => .inr ⟨others, hothers, by omega, hleft⟩⟩

lemma Members.length_le {ms : List (String × Tree String)} {w : List Char}
    (h : Members Spelled ms w) : ms.length ≤ w.length := by
  induction ms generalizing w with
  | nil => simp
  | cons m ms ih =>
    cases h with
    | last _ hw =>
      have := hw.length_pos
      simp only [List.length_append, List.length_cons, List.length_nil]
      omega
    | cons _ _ hrest =>
      have := ih hrest
      simp only [List.length_append, List.length_cons]
      omega

/-- What is done with a member whose key was read. -/
lemma members_key {skip : Reader Unit} {count : Nat} {key : String} {quoted colon : List Char}
    (hnext : nextKey first s = .ok (true, quoted)) (hkey : readText [] quoted = .ok (key, colon)) :
    members fields skip (count + 1) first draft s =
      match fields.find? (·.name == key) with
      | some field =>
        if field.given draft then .error (.misfit (.fieldRepeated key) colon)
        else part (members.afterColon (field.fill draft) colon) >>= fun r =>
          members fields skip count false r.1 r.2
      | none =>
        part (members.afterColon skip colon) >>= fun r =>
          members fields skip count false draft r.2 := by
  rw [members, hnext]
  change (part (readText [] quoted) >>= _) = _
  rw [hkey]
  rfl

/-- The members are read into the fields or passed over, up to the end of the object. -/
lemma answers_members (hfields : Fillable bound put fields) {count : Nat}
    {ms : List (String × Tree String)} (hcount : ms.length < count)
    (hs : AtMembers bound first ms s rest) :
    Answers (fun d r => r = (d, rest)) (absorbed put fields ms draft)
      (closed closeObject (members fields (skipValue bound) count first draft s)) := by
  induction ms generalizing count first draft s with
  | nil =>
    obtain ⟨count, rfl⟩ := Nat.exists_eq_succ_of_ne_zero (Nat.ne_of_gt hcount)
    rw [members, nextKey_end first hs.stop, absorbed]
    cases missing? fields draft with
    | some cause =>
      simp only [part, bind, Except.bind]
      exact answers_misfit _ _ _
    | none =>
      simp only [part, bind, Except.bind, pure, Except.pure, closed, closeObject_end]
      exact .ok rfl
  | cons m ms ih =>
    obtain ⟨key, t⟩ := m
    obtain ⟨count, rfl⟩ := Nat.exists_eq_succ_of_ne_zero (Nat.ne_of_gt (Nat.zero_lt_of_lt hcount))
    obtain ⟨quoted, colon, w, after, hnext, hkey, hcolon, hw, hbound, hafter, hothers⟩ := hs.next
    have hvalue {γ : Type} (value : Reader γ) :
        members.afterColon value colon = value (w ++ after) := by
      simp only [members.afterColon, hcolon]
      rfl
    rw [members_key hnext hkey, absorbed]
    cases hfind : fields.find? (·.name == key) with
    | some field =>
      have hfield := hfields field (List.mem_of_find?_eq_some hfind) draft
      simp only
      split_ifs
      · exact answers_misfit _ _ _
      · rw [closed_part_bind, hvalue]
        apply (hfield.padded hw hbound after).bind
        intro d r hr
        rw [← hr.1]
        exact ih (Nat.lt_of_succ_lt_succ hcount) (hothers r.2 hr.2)
    | none =>
      obtain ⟨left, hskip, hleft⟩ :=
        skipValue_padded (fun _ _ => Spelling.rawText) hw hbound.le hafter
      simp only
      rw [closed_part_bind, hvalue, hskip]
      exact ih (Nat.lt_of_succ_lt_succ hcount) (hothers left hleft)

/-- A record whose fields are filled in as told is decided. -/
lemma decides_record (expected : String) (hfields : Fillable bound put fields) (blank : σ) :
    DecidesBelow bound (record expected fields bound blank) (Tree.record? put fields blank) := by
  refine ⟨skipsSpace_record expected fields bound blank, ?_⟩
  intro t w h hbound rest
  have hleaves (d : σ) (r : σ × List Char) (hr : r = (d, rest)) : Leaves rest d r :=
    hr ▸ ⟨rfl, rfl⟩
  have harray {ts : List (Tree String)} {inner : List Char}
      (hinner : AtElements bound true ts (inner ++ ']' :: rest) rest) :
      Answers (Leaves rest) (placed put (fields.map (·.name)) ts blank)
        (record expected fields bound blank ('[' :: (inner ++ [']']) ++ rest)) := by
    rw [record, List.cons_append, List.append_assoc, List.singleton_append,
      skipSpace_cons_of_not (by decide)]
    refine Answers.mono ?_ hleaves
    exact answers_inOrder _ hfields hinner
  have hobject {ms : List (String × Tree String)} {inner : List Char} (hlength : ms.length < bound)
      (hinner : AtMembers bound true ms (inner ++ '}' :: rest) rest) :
      Answers (Leaves rest) (absorbed put fields ms blank)
        (record expected fields bound blank ('{' :: (inner ++ ['}']) ++ rest)) := by
    rw [record, List.cons_append, List.append_assoc, List.singleton_append,
      skipSpace_cons_of_not (by decide)]
    exact (answers_members hfields hlength hinner).mono hleaves
  have hblank {b : Bracket} {space : List Char} (hspace : Blank space) :
      skipSpace (space ++ b.closing :: rest) = b.closing :: rest :=
    (skipSpace_blank_append hspace _).trans (skipSpace_closing b rest)
  by_cases ht : (∃ ts, t = .array ts) ∨ ∃ ms, t = .object ms
  · cases h with
    | emptyArray hspace => exact harray (.inl ⟨rfl, hblank (b := .array) hspace⟩)
    | @array _ inner hinner =>
      simp only [List.length_cons, List.length_append] at hbound
      exact harray (.inr ⟨inner, hinner, by omega, rfl⟩)
    | emptyObject hspace =>
      refine hobject ?_ (.inl ⟨rfl, hblank (b := .object) hspace⟩)
      simp only [List.length_nil]
      omega
    | @object _ inner hinner =>
      simp only [List.length_cons, List.length_append] at hbound
      have := hinner.length_le
      exact hobject (by omega) (.inr ⟨inner, hinner, by omega, rfl⟩)
    | null | yes | no | number | text => simp at ht
  · obtain ⟨c, v, rfl, hspace, -, -, harray, hobject⟩ := h.exists_cons
    have hnone : t.record? put fields blank = none := by
      cases t with
      | array ts => exact absurd (.inl ⟨ts, rfl⟩) ht
      | object ms => exact absurd (.inr ⟨ms, rfl⟩) ht
      | _ => rfl
    rw [hnone, record, List.cons_append, skipSpace_cons_of_not hspace]
    split
    · exact .error
    · next heq => exact absurd (.inl (harray (List.cons.inj heq).1)) ht
    · next heq => exact absurd (.inr (hobject (List.cons.inj heq).1)) ht
    · exact answers_mismatch expected _

end

/-- A text of a document is decided by the reader of its value. -/
lemma answers_document {reader : Nat → Reader β} {dec : Tree String → Option β}
    (hreader : ∀ bound, DecidesBelow bound (reader bound) dec) {t : Tree String} {source : String}
    (h : DocumentText Spelled t source.toList) :
    Answers (fun b c => c = b) (dec t) (document reader source) := by
  have hread := (hreader (source.toList.length + 1)).padded h (Nat.lt_succ_self _) []
  rw [List.append_nil] at hread
  rw [document]
  apply hread.andThen
  intro b r hr
  refine ⟨b, ?_, rfl⟩
  simp only
  rw [hr.2]
  simp [hr.1]
  rfl

end Json

end RoomDraw
