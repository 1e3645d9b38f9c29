import RoomDraw.Proofs.Json.Numeral
import RoomDraw.Proofs.Json.Spelling

/-!
# Passing over values

A value of the right form is passed over up to its end, whatever brackets are open around it, and
the rounds that this takes are bounded by the length of its text. What is passed over has the right
form.
-/

namespace RoomDraw

namespace Json

def Bracket.opening : Bracket → Char
  | array => '['
  | object => '{'

/-! ### Rounds -/

section

variable {n : Nat} {b : Bracket} {stack : List Bracket} {s t v : List Char}

lemma skipRest_value_congr (h : skipSpace s = skipSpace t) :
    skipRest (n + 1) stack .value s = skipRest (n + 1) stack .value t := by
  rw [skipRest_value, skipRest_value, h]

lemma skipRest_closed_congr (h : skipSpace s = skipSpace t) :
    skipRest (n + 1) (b :: stack) .closed s = skipRest (n + 1) (b :: stack) .closed t := by
  rw [skipRest_member n b stack (by decide), skipRest_member n b stack (by decide), h]

lemma skipRest_opening (h : skipSpace s = b.opening :: t) :
    skipRest (n + 1) stack .value s = skipRest n (b :: stack) .opened t := by
  rw [skipRest_value, h]
  cases b <;> rfl

lemma skipRest_closing {state : SkipState} (hstate : state ≠ .value)
    (h : skipSpace s = b.closing :: t) :
    skipRest (n + 1) (b :: stack) state s = skipRest n stack .closed t := by
  rw [skipRest_member n b stack hstate, h]
  exact if_pos rfl

lemma skipRest_comma (h : skipSpace s = ',' :: t) (hlead : beforeMember b t = .ok ((), v)) :
    skipRest (n + 1) (b :: stack) .closed s = skipRest n (b :: stack) .value v := by
  have hcomma : ',' ≠ b.closing := by cases b <;> decide
  rw [skipRest_member n b stack (by decide), h]
  simp [hcomma, hlead, bind, Except.bind]

lemma skipRest_first {c : Char} (h : skipSpace s = c :: t) (hc : c ≠ b.closing)
    (hlead : beforeMember b (c :: t) = .ok ((), v)) :
    skipRest (n + 1) (b :: stack) .opened s = skipRest n (b :: stack) .value v := by
  rw [skipRest_member n b stack (by decide), h]
  simp [hc, hlead, bind, Except.bind]

lemma skipRest_scalar {c : Char} (h : skipSpace s = c :: t) (harray : c ≠ '[') (hobject : c ≠ '{')
    (hscalar : skipScalar (c :: t) = .ok ((), v)) :
    skipRest (n + 1) stack .value s = skipRest n stack .closed v := by
  rw [skipRest_value, h]
  split
  · next heq => exact absurd (List.cons.inj heq).1 harray
  · next heq => exact absurd (List.cons.inj heq).1 hobject
  · simp [hscalar, bind, Except.bind]

end

/-! ### Values of the right form are passed over -/

/-- The text of a value is passed over. A bracket takes two rounds, the one that opens it and the one
that closes it, so that no value takes more than two rounds for each of its characters. -/
def Passes (w : List Char) : Prop :=
  ∃ k, k + 2 ≤ 2 * w.length ∧ ∀ n stack rest, Delimited rest →
    skipRest (n + k + 1) stack .value (w ++ rest) = skipRest n stack .closed rest

/-- The text of a value is passed over inside a bracket, together with the space around it. -/
def PassesInside (w : List Char) : Prop :=
  ∃ k, k + 2 ≤ 2 * w.length ∧ ∀ n b stack rest s, Delimited rest →
    skipSpace s = skipSpace (w ++ rest) →
    skipRest (n + 1 + k + 1) (b :: stack) .value s = skipRest (n + 1) (b :: stack) .closed rest

/-- The text stands before the value of a member. -/
def Leads (b : Bracket) (lead : List Char) : Prop :=
  ∀ s t, skipSpace s = skipSpace (lead ++ t) →
    ∃ v, beforeMember b s = .ok ((), v) ∧ skipSpace v = skipSpace t

/-- The texts of members are passed over, together with the bracket that closes them. -/
def PassesBody (b : Bracket) (w : List Char) : Prop :=
  ∃ k, k + 1 ≤ 2 * w.length ∧ ∀ n stack rest s, skipSpace s = skipSpace (w ++ b.closing :: rest) →
    ∃ v, beforeMember b s = .ok ((), v) ∧
      skipRest (n + k + 1) (b :: stack) .value v = skipRest n stack .closed rest

lemma isSpace_iff {c : Char} :
    isSpace c = true ↔ c = ' ' ∨ c = '\n' ∨ c = '\t' ∨ c = '\r' := by
  simp [isSpace, or_assoc]

lemma Delimited.cons {c : Char} (s : List Char)
    (h : c.isDigit = false ∧ c ≠ '.' ∧ c ≠ 'e' ∧ c ≠ 'E') : Delimited (c :: s) := by
  intro d hd
  obtain rfl : c = d := by simpa using hd
  exact h

lemma Delimited.blank_append {space rest : List Char} (hspace : Blank space) (h : Delimited rest) :
    Delimited (space ++ rest) := by
  cases space with
  | nil => exact h
  | cons c space =>
    rcases isSpace_iff.mp (hspace c List.mem_cons_self) with rfl | rfl | rfl | rfl <;>
      exact Delimited.cons _ (by decide)

lemma delimited_closing (b : Bracket) (rest : List Char) : Delimited (b.closing :: rest) := by
  cases b <;> exact Delimited.cons _ (by decide)

lemma delimited_comma (rest : List Char) : Delimited (',' :: rest) := Delimited.cons _ (by decide)

lemma skipSpace_closing (b : Bracket) (rest : List Char) :
    skipSpace (b.closing :: rest) = b.closing :: rest := by
  cases b <;> exact skipSpace_cons_of_not (by decide)

lemma skipSpace_opening (b : Bracket) (s : List Char) :
    skipSpace (b.opening :: s) = b.opening :: s := by
  cases b <;> exact skipSpace_cons_of_not (by decide)

lemma Passes.inside {before w after : List Char} (hbefore : Blank before) (h : Passes w)
    (hafter : Blank after) : PassesInside (before ++ (w ++ after)) := by
  obtain ⟨k, hk, hpass⟩ := h
  refine ⟨k, by simp only [List.length_append]; omega, ?_⟩
  intro n b stack rest s hrest hs
  rw [List.append_assoc, List.append_assoc, skipSpace_blank_append hbefore] at hs
  rw [skipRest_value_congr hs, hpass (n + 1) _ _ (hrest.blank_append hafter),
    skipRest_closed_congr (skipSpace_blank_append hafter rest)]

lemma PassesInside.body_last {b : Bracket} {lead w : List Char} (hlead : Leads b lead)
    (h : PassesInside w) : PassesBody b (lead ++ w) := by
  obtain ⟨k, hk, hpass⟩ := h
  refine ⟨k + 1, by simp only [List.length_append]; omega, ?_⟩
  intro n stack rest s hs
  rw [List.append_assoc] at hs
  obtain ⟨v, hread, hv⟩ := hlead s _ hs
  refine ⟨v, hread, ?_⟩
  have hvalue := hpass n b stack (b.closing :: rest) v (delimited_closing b rest) hv
  rw [show n + (k + 1) + 1 = n + 1 + k + 1 by omega, hvalue,
    skipRest_closing (by decide) (skipSpace_closing b rest)]

lemma PassesInside.body_cons {b : Bracket} {lead w others : List Char} (hlead : Leads b lead)
    (h : PassesInside w) (hothers : PassesBody b others) :
    PassesBody b (lead ++ (w ++ ',' :: others)) := by
  obtain ⟨k, hk, hpass⟩ := h
  obtain ⟨m, hm, hpassOthers⟩ := hothers
  refine ⟨k + 2 + m, by simp only [List.length_append, List.length_cons]; omega, ?_⟩
  intro n stack rest s hs
  rw [List.append_assoc, List.append_assoc, List.cons_append] at hs
  obtain ⟨v, hread, hv⟩ := hlead s _ hs
  refine ⟨v, hread, ?_⟩
  obtain ⟨v', hread', hnext⟩ := hpassOthers n stack rest _ rfl
  have hvalue := hpass (n + m + 1) b stack _ v (delimited_comma _) hv
  rw [show n + (k + 2 + m) + 1 = n + m + 1 + 1 + k + 1 by omega, hvalue,
    skipRest_comma (skipSpace_cons_of_not (by decide)) hread', hnext]

/-- The members of an array or object are passed over with its brackets. -/
lemma PassesBody.bracketed {b : Bracket} {w : List Char} (h : PassesBody b w)
    (hfirst : ∃ c v, skipSpace w = c :: v ∧ c ≠ b.closing) :
    Passes (b.opening :: (w ++ [b.closing])) := by
  obtain ⟨k, hk, hpass⟩ := h
  obtain ⟨c, u, hu, hc⟩ := hfirst
  refine ⟨k + 2, ?_, ?_⟩
  · simp only [List.length_cons, List.length_append, List.length_nil]
    omega
  · intro n stack rest _
    have hopening : skipSpace (b.opening :: (w ++ [b.closing]) ++ rest) =
        b.opening :: (w ++ b.closing :: rest) := by
      rw [List.cons_append, List.append_assoc, List.singleton_append, skipSpace_opening]
    have hnext : skipSpace (w ++ b.closing :: rest) = c :: (u ++ b.closing :: rest) := by
      rw [skipSpace] at hu ⊢
      rw [List.dropWhile_append, hu]
      rfl
    obtain ⟨v, hread, hbody⟩ := hpass n stack rest (c :: (u ++ b.closing :: rest)) (by
      rw [← hnext, skipSpace_skipSpace])
    rw [show n + (k + 2) + 1 = n + k + 1 + 1 + 1 by omega, skipRest_opening hopening,
      skipRest_first hnext hc hread, hbody]

lemma passes_empty {b : Bracket} {space : List Char} (hspace : Blank space) :
    Passes (b.opening :: (space ++ [b.closing])) := by
  refine ⟨1, ?_, ?_⟩
  · simp only [List.length_cons, List.length_append, List.length_nil]
    omega
  · intro n stack rest _
    have hopening : skipSpace (b.opening :: (space ++ [b.closing]) ++ rest) =
        b.opening :: (space ++ b.closing :: rest) := by
      rw [List.cons_append, List.append_assoc, List.singleton_append, skipSpace_opening]
    rw [skipRest_opening hopening, skipRest_closing (by decide)
      ((skipSpace_blank_append hspace _).trans (skipSpace_closing b rest))]

lemma leads_array : Leads .array [] := fun s _ hs => ⟨s, rfl, hs⟩

variable {α : Type} {spelled : α → List Char → Prop}

lemma keyThen_eq {β : Type} {key : Reader β} {k : β} {s left after rest : List Char}
    (h : key s = .ok (k, left)) (hleft : left = after ++ ':' :: rest) (hafter : Blank after) :
    keyThen key s = .ok (k, rest) := by
  have hcolon : skipSpace left = ':' :: rest := by
    rw [hleft, skipSpace_blank_append hafter, skipSpace_cons_of_not (by decide)]
  simp [keyThen, h, hcolon, bind, Except.bind, pure, Except.pure]

lemma leads_object (hraw : ∀ a w, spelled a w → RawText w) {key : α} {k : List Char}
    (h : KeyText spelled key k) : Leads .object k := by
  intro s t hs
  obtain @⟨before, w, after, hbefore, hw, hafter⟩ := h
  have hquote : skipSpace s = '"' :: (w ++ '"' :: (after ++ ':' :: t)) := by
    rw [hs, List.append_assoc, skipSpace_blank_append hbefore, List.cons_append,
      skipSpace_cons_of_not (by decide)]
    simp
  refine ⟨t, ?_, rfl⟩
  rw [beforeMember, hquote]
  exact keyThen_eq (skipText_rawText (hraw key w hw) _) rfl hafter

/-- A value that is passed over as a whole takes one round. -/
lemma passes_scalar {c : Char} {w : List Char} (hspace : isSpace c = false) (harray : c ≠ '[')
    (hobject : c ≠ '{')
    (h : ∀ rest, Delimited rest → skipScalar (c :: (w ++ rest)) = .ok ((), rest)) :
    Passes (c :: w) := by
  refine ⟨0, by simp only [List.length_cons]; omega, ?_⟩
  intro n stack rest hrest
  exact skipRest_scalar (skipSpace_cons_of_not hspace) harray hobject (h rest hrest)

lemma NumeralText.exists_cons {w : List Char} (h : NumeralText w) :
    ∃ c v, w = c :: v ∧ (c = '-' ∨ c.isDigit = true) := by
  obtain @⟨sign, whole, fraction, exponent, hsign, hwhole, -, -⟩ := h
  obtain ⟨c, v, rfl, hc⟩ := hwhole.exists_cons
  rcases hsign with rfl | rfl
  · exact ⟨c, _, rfl, .inr hc⟩
  · exact ⟨'-', _, rfl, .inl rfl⟩

/-- What begins a number is no other character. -/
lemma number_ne {c d : Char} (h : c = '-' ∨ c.isDigit = true)
    (hd : d ≠ '-' ∧ d.isDigit = false) : c ≠ d := by
  rintro rfl
  rcases h with h | h
  · exact hd.1 h
  · exact Bool.noConfusion (h.symm.trans hd.2)

lemma isSpace_number {c : Char} (h : c = '-' ∨ c.isDigit = true) : isSpace c = false := by
  refine Bool.eq_false_iff.mpr fun hspace => ?_
  rcases isSpace_iff.mp hspace with rfl | rfl | rfl | rfl <;>
    exact number_ne h (by decide) rfl

lemma passes_number {w : List Char} (h : NumeralText w) : Passes w := by
  obtain ⟨c, v, rfl, hc⟩ := h.exists_cons
  refine passes_scalar (isSpace_number hc) (number_ne hc (by decide)) (number_ne hc (by decide))
    fun rest hrest => ?_
  rw [skipScalar, if_neg (number_ne hc (by decide)), if_neg (number_ne hc (by decide)),
    if_neg (number_ne hc (by decide)), if_neg (number_ne hc (by decide)), if_pos hc]
  exact skipNumber_append h hrest

/-- The text of a value begins with a character that neither is space nor closes an array, and that
tells strings, arrays and objects from all other values. -/
lemma Written.exists_cons {t : Tree α} {w : List Char} (h : Written spelled t w) :
    ∃ c v, w = c :: v ∧ isSpace c = false ∧ c ≠ ']' ∧ (c = '"' → ∃ a, t = .text a) ∧
      (c = '[' → ∃ ts, t = .array ts) ∧ (c = '{' → ∃ ms, t = .object ms) := by
  cases h with
  | null => exact ⟨'n', _, rfl, by simp [isSpace]⟩
  | yes => exact ⟨'t', _, rfl, by simp [isSpace]⟩
  | no => exact ⟨'f', _, rfl, by simp [isSpace]⟩
  | number hnumeral =>
    obtain ⟨c, v, rfl, hc⟩ := hnumeral.exists_cons
    have hne {d : Char} (hd : d ≠ '-' ∧ d.isDigit = false) {p : Prop} (heq : c = d) : p :=
      absurd heq (number_ne hc hd)
    exact ⟨c, v, rfl, isSpace_number hc, number_ne hc (by decide), hne (by decide),
      hne (by decide), hne (by decide)⟩
  | text => exact ⟨'"', _, rfl, by simp [isSpace]⟩
  | emptyArray | array => exact ⟨'[', _, rfl, by simp [isSpace]⟩
  | emptyObject | object => exact ⟨'{', _, rfl, by simp [isSpace]⟩

lemma Padded.opens {t : Tree α} {w : List Char} (h : Padded spelled t w) : Opens w := by
  obtain @⟨before, t, w, after, hbefore, hw, -⟩ := h
  obtain ⟨c, v, rfl, hspace, hc, -⟩ := hw.exists_cons
  exact ⟨c, v ++ after, by
    rw [skipSpace_blank_append hbefore, List.cons_append, skipSpace_cons_of_not hspace], hc⟩

lemma Elements.opens {ts : List (Tree α)} {w : List Char} (h : Elements spelled ts w) :
    Opens w := by
  cases h with
  | last hw => exact hw.opens
  | cons hw => exact hw.opens.append _

lemma KeyText.exists_quote {key : α} {k : List Char} (h : KeyText spelled key k) (s : List Char) :
    ∃ v, skipSpace (k ++ s) = '"' :: v := by
  obtain @⟨before, w, after, hbefore, -, -⟩ := h
  rw [List.append_assoc, skipSpace_blank_append hbefore, List.cons_append]
  exact ⟨_, skipSpace_cons_of_not (by decide)⟩

lemma Members.exists_quote {ms : List (α × Tree α)} {w : List Char} (h : Members spelled ms w) :
    ∃ v, skipSpace w = '"' :: v := by
  cases h with
  | last hkey => exact hkey.exists_quote _
  | cons hkey => exact hkey.exists_quote _

mutual

/-- The text of a value is passed over, whatever value it is. -/
lemma Written.passes (hraw : ∀ a w, spelled a w → RawText w) {t : Tree α} {w : List Char} :
    Written spelled t w → Passes w
  | .null | .yes | .no =>
    passes_scalar (by decide) (by decide) (by decide) fun _ _ => rfl
  | .number hnumeral => passes_number hnumeral
  | .text hw => passes_scalar (by decide) (by decide) (by decide) fun rest _ => by
    rw [List.append_assoc]
    exact skipText_rawText (hraw _ _ hw) rest
  | .emptyArray hspace => passes_empty (b := .array) hspace
  | .array hw => (Elements.passesBody hraw hw).bracketed hw.opens
  | .emptyObject hspace => passes_empty (b := .object) hspace
  | .object hw => by
    obtain ⟨v, hv⟩ := hw.exists_quote
    exact (Members.passesBody hraw hw).bracketed ⟨'"', v, hv, by decide⟩

lemma Padded.passesInside (hraw : ∀ a w, spelled a w → RawText w) {t : Tree α} {w : List Char} :
    Padded spelled t w → PassesInside w
  | .mk hbefore hw hafter => (Written.passes hraw hw).inside hbefore hafter

lemma Elements.passesBody (hraw : ∀ a w, spelled a w → RawText w) {ts : List (Tree α)}
    {w : List Char} : Elements spelled ts w → PassesBody .array w
  | .last hw => (Padded.passesInside hraw hw).body_last leads_array
  | .cons hw hrest =>
    (Padded.passesInside hraw hw).body_cons leads_array (Elements.passesBody hraw hrest)

lemma Members.passesBody (hraw : ∀ a w, spelled a w → RawText w) {ms : List (α × Tree α)}
    {w : List Char} : Members spelled ms w → PassesBody .object w
  | .last hkey hw => (Padded.passesInside hraw hw).body_last (leads_object hraw hkey)
  | .cons hkey hw hrest =>
    (Padded.passesInside hraw hw).body_cons (leads_object hraw hkey)
      (Members.passesBody hraw hrest)

end

/-- As many rounds as a value is given are enough for it. -/
lemma skipValue_padded (hraw : ∀ a w, spelled a w → RawText w) {t : Tree α} {w : List Char}
    (h : Padded spelled t w) {bound : Nat} (hbound : w.length ≤ bound) {rest : List Char}
    (hrest : Delimited rest) :
    ∃ left, skipValue bound (w ++ rest) = .ok ((), left) ∧ skipSpace left = skipSpace rest := by
  obtain @⟨before, t, v, after, hbefore, hv, hafter⟩ := h
  obtain ⟨k, hk, hpass⟩ := hv.passes hraw
  simp only [List.length_append] at hbound
  -- one round at least is left behind the value, the one that finds no bracket open
  obtain ⟨n, hn⟩ : ∃ n, 2 * bound + 2 = n + 1 + k + 1 := ⟨2 * bound - k, by omega⟩
  refine ⟨after ++ rest, ?_, skipSpace_blank_append hafter rest⟩
  rw [skipValue, hn, List.append_assoc, List.append_assoc,
    skipRest_value_congr (skipSpace_blank_append hbefore _),
    hpass (n + 1) [] _ (hrest.blank_append hafter)]
  rfl

end Json

end RoomDraw
