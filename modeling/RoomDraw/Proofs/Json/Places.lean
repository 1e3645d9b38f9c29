import RoomDraw.Proofs.Json.Grammar

/-!
# Places in a text

Whether a character of a JSON text stands in a string is settled by the quotes and backslashes
before it, without regard to the values that the text holds. The characters of a string stay between
its quotes, since a quote among them is always escaped.
-/

namespace RoomDraw

namespace Json

/-- Where a character of a text stands. -/
inductive Place where
  /-- Not in a string, or at the quote that opens one. -/
  | outside
  /-- In a string, or at the quote that closes it. -/
  | inside
  /-- In a string, right behind the backslash of an escape. -/
  | escaped
deriving DecidableEq, Repr

namespace Place

/-- The place behind a character. -/
def next : Place → Char → Place
  | outside, c => if c = '"' then inside else outside
  | inside, c => if c = '"' then outside else if c = '\\' then escaped else inside
  | escaped, _ => inside

/-- The place behind a text. -/
def after (p : Place) (s : List Char) : Place := s.foldl next p

/-- The characters of a text, each with its place. -/
def along : Place → List Char → List (Place × Char)
  | _, [] => []
  | p, c :: s => (p, c) :: along (p.next c) s

variable (p : Place) (c : Char) (s t : List Char)

@[simp] lemma after_nil : p.after [] = p := rfl

@[simp] lemma after_cons : p.after (c :: s) = (p.next c).after s := rfl

@[simp] lemma after_append : p.after (s ++ t) = (p.after s).after t := List.foldl_append

@[simp] lemma along_nil : p.along [] = [] := rfl

@[simp] lemma along_cons : p.along (c :: s) = (p, c) :: (p.next c).along s := rfl

@[simp] lemma along_append : p.along (s ++ t) = p.along s ++ (p.after s).along t := by
  induction s generalizing p with
  | nil => rfl
  | cons c s ih => rw [List.cons_append, along_cons, ih, along_cons, after_cons, List.cons_append]

lemma map_snd_along : (p.along s).map Prod.snd = s := by
  induction s generalizing p with
  | nil => rfl
  | cons c s ih => rw [along_cons, List.map_cons, ih]

end Place

/-! ### Outside of strings -/

/-- A text without quotes leads into no string. -/
lemma after_unquoted {s : List Char} (h : ∀ c ∈ s, c ≠ '"') :
    Place.outside.after s = .outside := by
  induction s with
  | nil => rfl
  | cons c s ih =>
    rw [Place.after_cons, Place.next, if_neg (h c List.mem_cons_self)]
    exact ih fun d hd => h d (List.mem_cons_of_mem _ hd)

lemma along_unquoted {s : List Char} (h : ∀ c ∈ s, c ≠ '"') :
    Place.outside.along s = s.map (.outside, ·) := by
  induction s with
  | nil => rfl
  | cons c s ih =>
    rw [Place.along_cons, Place.next, if_neg (h c List.mem_cons_self), List.map_cons]
    exact congrArg _ (ih fun d hd => h d (List.mem_cons_of_mem _ hd))

/-! ### Strings -/

lemma HexDigit.unescaped {c : Char} {n : Nat} (h : HexDigit c n) : Unescaped c := by
  have hne {d : Char} (hd : ¬('0' ≤ d ∧ d ≤ '9') ∧ ¬('a' ≤ d ∧ d ≤ 'f') ∧ ¬('A' ≤ d ∧ d ≤ 'F')) :
      c ≠ d := by
    rintro rfl
    rcases h with ⟨hlow, hhigh, -⟩ | ⟨hlow, hhigh, -⟩ | ⟨hlow, hhigh, -⟩
    · exact hd.1 ⟨hlow, hhigh⟩
    · exact hd.2.1 ⟨hlow, hhigh⟩
    · exact hd.2.2 ⟨hlow, hhigh⟩
  refine ⟨hne (by decide), hne (by decide), Char.not_lt.mpr ?_⟩
  rcases h with ⟨hlow, -, -⟩ | ⟨hlow, -, -⟩ | ⟨hlow, -, -⟩ <;>
    exact Char.le_trans (by decide) hlow

/-- Characters in a string that do not end it, and of which none is a control. -/
structure Stays (w : List Char) : Prop where
  after_eq : Place.inside.after w = .inside
  covered : ∀ x ∈ Place.inside.along w, x.1 ≠ .outside ∧ ¬x.2 < ' '

namespace Stays

variable {c : Char} {v w : List Char}

lemma nil : Stays [] := ⟨rfl, by simp⟩

lemma append (h : Stays w) (hv : Stays v) : Stays (w ++ v) := by
  refine ⟨by rw [Place.after_append, h.after_eq, hv.after_eq], fun x hx => ?_⟩
  rw [Place.along_append, h.after_eq, List.mem_append] at hx
  exact hx.elim (h.covered x) (hv.covered x)

lemma unescaped (h : Unescaped c) : Stays [c] := by
  obtain ⟨hquote, hbackslash, hcontrol⟩ := h
  exact ⟨by simp [Place.next, hquote, hbackslash], by simpa using hcontrol⟩

/-- A backslash takes the meaning of the character behind it. -/
lemma escape (h : ¬c < ' ') : Stays ['\\', c] :=
  ⟨by simp [Place.next], by simpa [Place.next] using h⟩

lemma hexUnit {n : Nat} (h : HexUnit w n) : Stays w := by
  cases h with
  | mk ha hb hc hd =>
    have hab := (unescaped ha.unescaped).append (unescaped hb.unescaped)
    exact hab.append ((unescaped hc.unescaped).append (unescaped hd.unescaped))

/-- What stands between the quotes of a string does not end it. -/
lemma rawText (h : RawText w) : Stays w := by
  have hshort : ∀ x ∈ shortEscapes, ¬x.1 < ' ' := by decide
  induction h with
  | nil => exact nil
  | plain hc _ ih => exact (unescaped hc).append ih
  | short hc _ ih => exact (escape (hshort _ hc)).append ih
  | unit hunit _ ih => exact (escape (by decide)).append ((hexUnit hunit).append ih)

end Stays

/-- Behind the closing quote a text is outside of the string. -/
lemma after_quoted {w : List Char} (h : RawText w) :
    Place.outside.after ('"' :: (w ++ ['"'])) = .outside := by
  simp [Place.next, (Stays.rawText h).after_eq]

/-- The opening quote is outside of the string. What is behind it, up to the closing quote, is not,
and no control is there. -/
lemma mem_along_quoted {w : List Char} (h : RawText w) {x : Place × Char}
    (hx : x ∈ Place.outside.along ('"' :: (w ++ ['"']))) :
    x = (.outside, '"') ∨ x.1 ≠ .outside ∧ ¬x.2 < ' ' := by
  have halong : Place.outside.along ('"' :: (w ++ ['"'])) =
      (.outside, '"') :: (Place.inside.along w ++ [(.inside, '"')]) := by
    simp [Place.next, (Stays.rawText h).after_eq]
  rw [halong, List.mem_cons, List.mem_append, List.mem_singleton] at hx
  rcases hx with rfl | hx | rfl
  · exact .inl rfl
  · exact .inr ((Stays.rawText h).covered x hx)
  · exact .inr (by decide)

end Json

end RoomDraw
