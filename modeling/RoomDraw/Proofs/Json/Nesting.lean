import Mathlib.Algebra.BigOperators.Group.List.Basic
import Mathlib.Algebra.Ring.Int.Defs
import RoomDraw.Proofs.Json.Places
import RoomDraw.Proofs.Json.Skipping

/-!
# How brackets nest

A text of a value closes as many brackets as it opens, and never one that it has not opened. One
that begins with a bracket has that bracket open up to its last character, so that no other text of
a value is a beginning of it.
-/

namespace RoomDraw

namespace Json

/-! ### Depth -/

/-- How a character changes the number of open brackets. In a string it does not. -/
def weight (x : Place × Char) : Int :=
  if x.1 ≠ .outside then 0
  else if x.2 = '[' ∨ x.2 = '{' then 1
  else if x.2 = ']' ∨ x.2 = '}' then -1
  else 0

/-- The number of brackets that a text opens and does not close. -/
def depth (s : List Char) : Int := ((Place.outside.along s).map weight).sum

@[simp] lemma depth_nil : depth [] = 0 := rfl

lemma depth_append {s : List Char} (h : Place.outside.after s = .outside) (t : List Char) :
    depth (s ++ t) = depth s + depth t := by
  rw [depth, Place.along_append, h, List.map_append, List.sum_append, ← depth, ← depth]

lemma depth_opening (b : Bracket) (s : List Char) : depth (b.opening :: s) = 1 + depth s := by
  cases b <;> simp [depth, Bracket.opening, Place.next, weight]

lemma depth_closing (b : Bracket) : depth [b.closing] = -1 := by
  cases b <;> decide

/-- Whether a character can tell where a string or a bracket begins or ends. -/
def isDelimiter (c : Char) : Bool := c == '"' || c == '[' || c == '{' || c == ']' || c == '}'

/-- A text that leads into no string, closes the brackets that it opens and no others. -/
structure Balanced (w : List Char) : Prop where
  after_eq : Place.outside.after w = .outside
  depth_eq : depth w = 0
  depth_nonneg : ∀ s, s <+: w → 0 ≤ depth s

namespace Balanced

variable {w v : List Char}

lemma of_weight (hafter : Place.outside.after w = .outside)
    (h : ∀ x ∈ Place.outside.along w, weight x = 0) : Balanced w := by
  have hzero : ∀ s, s <+: w → depth s = 0 := by
    rintro s ⟨t, rfl⟩
    refine List.sum_eq_zero fun n hn => ?_
    obtain ⟨x, hx, rfl⟩ := List.mem_map.mp hn
    exact h x (by rw [Place.along_append]; exact List.mem_append_left _ hx)
  exact ⟨hafter, hzero w List.prefix_rfl, fun s hs => Int.le_of_eq (hzero s hs).symm⟩

lemma append (h : Balanced w) (h' : Balanced v) : Balanced (w ++ v) := by
  refine ⟨by rw [Place.after_append, h.after_eq, h'.after_eq],
    by rw [depth_append h.after_eq, h.depth_eq, h'.depth_eq, add_zero], fun s hs => ?_⟩
  rcases List.prefix_or_prefix_of_prefix hs (List.prefix_append w v) with hw | ⟨t, rfl⟩
  · exact h.depth_nonneg s hw
  · rw [List.prefix_append_right_inj] at hs
    rw [depth_append h.after_eq, h.depth_eq, zero_add]
    exact h'.depth_nonneg t hs

/-- A text without quotes and brackets. -/
lemma of_plain (h : w.all (!isDelimiter ·) = true) : Balanced w := by
  have hplain : ∀ c ∈ w, c ≠ '"' ∧ c ≠ '[' ∧ c ≠ '{' ∧ c ≠ ']' ∧ c ≠ '}' := by
    simpa [isDelimiter, and_assoc] using h
  have hquote : ∀ c ∈ w, c ≠ '"' := fun c hc => (hplain c hc).1
  refine of_weight (after_unquoted hquote) ?_
  rw [along_unquoted hquote]
  intro x hx
  obtain ⟨c, hc, rfl⟩ := List.mem_map.mp hx
  obtain ⟨-, hbrackets⟩ := hplain c hc
  simp [weight, hbrackets]

lemma of_blank (h : Blank w) : Balanced w := by
  refine of_plain (List.all_eq_true.mpr fun c hc => ?_)
  rcases isSpace_iff.mp (h c hc) with rfl | rfl | rfl | rfl <;> rfl

/-- A string, whatever brackets stand in it. -/
lemma quoted (h : RawText w) : Balanced ('"' :: (w ++ ['"'])) := by
  refine of_weight (after_quoted h) fun x hx => ?_
  rcases mem_along_quoted h hx with rfl | ⟨hinside, -⟩
  · rfl
  · simp [weight, hinside]

/-- Up to the last character of a balanced text in brackets one bracket at least is open. -/
lemma depth_pos (h : Balanced w) (b : Bracket) {s t : List Char} (hs : s ≠ []) (ht : t ≠ [])
    (heq : s ++ t = b.opening :: (w ++ [b.closing])) : 0 < depth s := by
  obtain ⟨c, s, rfl⟩ := List.exists_cons_of_ne_nil hs
  obtain ⟨t, d, rfl⟩ := (List.eq_nil_or_concat' t).resolve_left ht
  obtain ⟨rfl, hrest⟩ := List.cons.inj heq
  have hw : s ++ t = w := List.append_inj_left' ((List.append_assoc s t [d]).trans hrest) rfl
  have hnonneg := h.depth_nonneg s ⟨t, hw⟩
  rw [depth_opening]
  omega

lemma bracketed (h : Balanced w) (b : Bracket) : Balanced (b.opening :: (w ++ [b.closing])) := by
  have hdepth : depth (b.opening :: (w ++ [b.closing])) = 0 := by
    rw [depth_opening, depth_append h.after_eq, h.depth_eq, depth_closing]
    rfl
  refine ⟨?_, hdepth, ?_⟩
  · cases b <;> simp [Bracket.opening, Bracket.closing, Place.next, h.after_eq]
  · rintro s ⟨t, heq⟩
    by_cases hs : s = []
    · exact Int.le_of_eq (by rw [hs, depth_nil])
    by_cases ht : t = []
    · rw [ht, List.append_nil] at heq
      exact Int.le_of_eq (by rw [heq, hdepth])
    · exact Int.le_of_lt (h.depth_pos b hs ht heq)

end Balanced

/-! ### Texts of values -/

lemma Balanced.of_digits {w : List Char} (h : ∀ c ∈ w, c.isDigit = true) : Balanced w := by
  refine .of_plain (List.all_eq_true.mpr fun c hc => ?_)
  have hne (d : Char) (hd : d ≠ '-' ∧ d.isDigit = false) : c ≠ d := number_ne (.inr (h c hc)) hd
  have hbrackets : c ≠ '[' ∧ c ≠ '{' ∧ c ≠ ']' ∧ c ≠ '}' :=
    ⟨hne '[' (by decide), hne '{' (by decide), hne ']' (by decide), hne '}' (by decide)⟩
  simp [isDelimiter, hne '"' (by decide), hbrackets]

lemma NumeralText.balanced {w : List Char} (h : NumeralText w) : Balanced w := by
  obtain @⟨sign, whole, fraction, exponent, hsign, hwhole, hfraction, hexponent⟩ := h
  have hsign : Balanced sign := by
    rcases hsign with rfl | rfl <;> exact .of_plain rfl
  have hwhole : Balanced whole := by
    cases hwhole with
    | zero => exact .of_plain rfl
    | digits h => exact .of_digits h.2
  have hfraction : Balanced fraction := by
    cases hfraction with
    | none => exact .of_plain rfl
    | digits h => exact (Balanced.of_plain (w := ['.']) rfl).append (.of_digits h.2)
  have hexponent : Balanced exponent := by
    cases hexponent with
    | none => exact .of_plain rfl
    | @digits e sign w he hsign h =>
      have hletter : Balanced [e] := by
        rcases he with rfl | rfl <;> exact .of_plain rfl
      have hsign : Balanced sign := by
        rcases hsign with rfl | rfl | rfl <;> exact .of_plain rfl
      exact hletter.append (hsign.append (.of_digits h.2))
  exact hsign.append (hwhole.append (hfraction.append hexponent))

variable {α : Type} {spelled : α → List Char → Prop}

lemma KeyText.balanced (hraw : ∀ a w, spelled a w → RawText w) {key : α} {k : List Char}
    (h : KeyText spelled key k) : Balanced k := by
  obtain @⟨before, w, after, hbefore, hw, hafter⟩ := h
  have hcolon : Balanced [':'] := .of_plain rfl
  have hend : Balanced (after ++ [':']) := (Balanced.of_blank hafter).append hcolon
  simpa using (Balanced.of_blank hbefore).append ((Balanced.quoted (hraw _ _ hw)).append hend)

mutual

/-- The text of a value is balanced, whatever value it is. -/
lemma Written.balanced (hraw : ∀ a w, spelled a w → RawText w) {t : Tree α} {w : List Char} :
    Written spelled t w → Balanced w
  | .null | .yes | .no => .of_plain rfl
  | .number hnumeral => hnumeral.balanced
  | .text hw => .quoted (hraw _ _ hw)
  | .emptyArray hspace => (Balanced.of_blank hspace).bracketed .array
  | .array hw => (Elements.balanced hraw hw).bracketed .array
  | .emptyObject hspace => (Balanced.of_blank hspace).bracketed .object
  | .object hw => (Members.balanced hraw hw).bracketed .object

lemma Padded.balanced (hraw : ∀ a w, spelled a w → RawText w) {t : Tree α} {w : List Char} :
    Padded spelled t w → Balanced w
  | .mk hbefore hw hafter =>
    (Balanced.of_blank hbefore).append ((Written.balanced hraw hw).append (.of_blank hafter))

lemma Elements.balanced (hraw : ∀ a w, spelled a w → RawText w) {ts : List (Tree α)}
    {w : List Char} : Elements spelled ts w → Balanced w
  | .last hw => Padded.balanced hraw hw
  | .cons hw hrest => (Padded.balanced hraw hw).append
    ((Balanced.of_plain (w := [',']) rfl).append (Elements.balanced hraw hrest))

lemma Members.balanced (hraw : ∀ a w, spelled a w → RawText w) {ms : List (α × Tree α)}
    {w : List Char} : Members spelled ms w → Balanced w
  | .last hkey hw => (hkey.balanced hraw).append (Padded.balanced hraw hw)
  | .cons hkey hw hrest => (hkey.balanced hraw).append ((Padded.balanced hraw hw).append
    ((Balanced.of_plain (w := [',']) rfl).append (Members.balanced hraw hrest)))

end

/-! ### Beginnings of texts -/

lemma Written.exists_bracketed (hraw : ∀ a w, spelled a w → RawText w) {b : Bracket} {t : Tree α}
    {v : List Char} (h : Written spelled t (b.opening :: v)) :
    ∃ u, v = u ++ [b.closing] ∧ Balanced u := by
  obtain ⟨c, v, heq, -, -, -, harray, hobject⟩ := h.exists_cons
  obtain ⟨rfl, rfl⟩ := List.cons.inj heq
  cases b with
  | array =>
    obtain ⟨ts, rfl⟩ := harray rfl
    cases h with
    | emptyArray hspace => exact ⟨_, rfl, .of_blank hspace⟩
    | array hw => exact ⟨_, rfl, hw.balanced hraw⟩
  | object =>
    obtain ⟨ms, rfl⟩ := hobject rfl
    cases h with
    | emptyObject hspace => exact ⟨_, rfl, .of_blank hspace⟩
    | object hw => exact ⟨_, rfl, hw.balanced hraw⟩

/-- If a text that begins with a bracket holds one value, and so does a beginning of it, then only
space is behind that beginning. -/
lemma Padded.blank_of_append (hraw : ∀ a w, spelled a w → RawText w) {b : Bracket} {t t' : Tree α}
    {s more w : List Char} (hw : Padded spelled t (b.opening :: w)) (hs : Padded spelled t' s)
    (h : s ++ more = b.opening :: w) : Blank more := by
  generalize hwhole : b.opening :: w = whole at hw h
  obtain @⟨before, t, v, after, hbefore, hv, hafter⟩ := hw
  have hnone : before = [] := by
    cases before with
    | nil => rfl
    | cons c before =>
      have hspace := hbefore c List.mem_cons_self
      rw [← (List.cons.inj hwhole).1] at hspace
      cases b <;> cases hspace
  subst hnone
  obtain ⟨c, v, rfl, -⟩ := hv.exists_cons
  obtain ⟨rfl, -⟩ := List.cons.inj hwhole
  obtain ⟨u, rfl, hu⟩ := hv.exists_bracketed hraw
  have hbalanced := hs.balanced hraw
  have hne : s ≠ [] := by
    rintro rfl
    obtain ⟨c, v, hcons, -⟩ := hs.opens
    cases hcons
  rw [List.nil_append] at h
  rcases List.append_eq_append_iff.mp h with ⟨r, heq, rfl⟩ | ⟨r, -, rfl⟩
  · -- the beginning ends inside the brackets, where its depth cannot be zero, or with them
    have hr : r = [] := by
      by_contra hr
      have hpos := hu.depth_pos b hne hr heq.symm
      rw [hbalanced.depth_eq] at hpos
      exact absurd hpos (by decide)
    rwa [hr]
  · exact fun c hc => hafter c (List.mem_append_right r hc)

end Json

end RoomDraw
