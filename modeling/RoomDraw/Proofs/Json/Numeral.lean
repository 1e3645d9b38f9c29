import RoomDraw.Proofs.Json.Grammar

/-!
# Numbers are read as the grammar has them

A number of the right form is passed over if what follows it cannot be taken for a part of it, and
what is read has the right form.
-/

namespace RoomDraw

namespace Json

/-- The text does not go on with a digit. -/
def NoDigit (s : List Char) : Prop := ∀ c ∈ s.head?, c.isDigit = false

/-- The text does not go on with anything that a number could go on with. -/
def Delimited (s : List Char) : Prop :=
  ∀ c ∈ s.head?, c.isDigit = false ∧ c ≠ '.' ∧ c ≠ 'e' ∧ c ≠ 'E'

lemma Delimited.noDigit {s : List Char} (h : Delimited s) : NoDigit s := fun c hc => (h c hc).1

lemma WholeText.exists_cons {w : List Char} (h : WholeText w) :
    ∃ c v, w = c :: v ∧ c.isDigit = true := by
  cases h with
  | zero => exact ⟨'0', [], rfl, rfl⟩
  | digits hdigits =>
    obtain ⟨c, v, rfl⟩ := List.exists_cons_of_ne_nil hdigits.1
    exact ⟨c, v, rfl, hdigits.2 c List.mem_cons_self⟩

namespace Numeral

variable {cause : Cause}

/-! ### Numbers of the right form are read -/

lemma someDigits_append (cause : Cause) {w rest : List Char} (h : Digits w) (hrest : NoDigit rest) :
    someDigits cause (w ++ rest) = .ok (w, rest) := by
  obtain ⟨hne, hdigits⟩ := h
  have hnone : rest.takeWhile Char.isDigit = [] ∧ rest.dropWhile Char.isDigit = rest := by
    cases rest with
    | nil => exact ⟨rfl, rfl⟩
    | cons c rest => simp [hrest c rfl]
  obtain ⟨c, w, rfl⟩ := List.exists_cons_of_ne_nil hne
  have hsplit : digitsOf (c :: w ++ rest) = (c :: w, rest) := by
    rw [digitsOf, List.takeWhile_append_of_pos hdigits, List.dropWhile_append_of_pos hdigits,
      hnone.1, hnone.2, List.append_nil]
  rw [List.cons_append, someDigits, if_pos (hdigits c List.mem_cons_self), ← List.cons_append,
    hsplit]

lemma wholePart_append {w rest : List Char} (h : WholeText w) (hrest : NoDigit rest) :
    wholePart cause (w ++ rest) = .ok (w, rest) := by
  cases h with
  | zero =>
    cases rest with
    | nil => rfl
    | cons c rest => simp [wholePart, hrest c rfl]
  | digits hdigits hzero =>
    obtain ⟨c, v, rfl⟩ := List.exists_cons_of_ne_nil hdigits.1
    have hc : c ≠ '0' := by
      rintro rfl
      exact hzero rfl
    rw [wholePart]
    · exact someDigits_append cause hdigits hrest
    · intro _ _ heq
      exact absurd (List.cons.inj heq).1 hc

lemma fractionPart_append {w rest : List Char} (h : FractionText w) (hrest : NoDigit rest)
    (hpoint : rest.head? ≠ some '.') : fractionPart cause (w ++ rest) = .ok (w.tail, rest) := by
  cases h with
  | none =>
    rw [fractionPart]
    · rfl
    · rintro rest' rfl
      exact hpoint rfl
  | digits hdigits => exact someDigits_append cause hdigits hrest

lemma exponentPart_append (cause : Cause) {w rest : List Char} (h : ExponentText w)
    (hrest : Delimited rest) : ∃ e, exponentPart cause (w ++ rest) = .ok (e, rest) := by
  cases h with
  | none =>
    refine ⟨none, ?_⟩
    cases rest with
    | nil => rfl
    | cons c rest =>
      obtain ⟨-, -, he, hE⟩ := hrest c rfl
      simp [exponentPart, he, hE]
  | @digits e sign w he hsign hdigits =>
    have hread := someDigits_append cause hdigits hrest.noDigit
    rw [List.cons_append, List.append_assoc]
    rcases hsign with rfl | rfl | rfl
    · obtain ⟨c, v, rfl⟩ := List.exists_cons_of_ne_nil hdigits.1
      have hc := hdigits.2 c List.mem_cons_self
      refine ⟨some (false, c :: v), ?_⟩
      rw [List.nil_append, exponentPart, if_pos he, hread]
      · rfl
      · rintro _ heq
        obtain rfl := (List.cons.inj heq).1
        cases hc
      · rintro _ heq
        obtain rfl := (List.cons.inj heq).1
        cases hc
    · refine ⟨some (false, w), ?_⟩
      simp only [List.singleton_append, exponentPart, if_pos he, hread]
      rfl
    · refine ⟨some (true, w), ?_⟩
      simp only [List.singleton_append, exponentPart, if_pos he, hread]
      rfl

/-- A number of the right form is read up to its end. -/
lemma readSigned_append (cause : Cause) {w rest : List Char} (h : NumeralText w)
    (hrest : Delimited rest) : ∃ numeral, readSigned cause (w ++ rest) = .ok (numeral, rest) := by
  obtain @⟨sign, whole, fraction, exponent, hsign, hwhole, hfraction, hexponent⟩ := h
  have hexponentRest : NoDigit (exponent ++ rest) ∧ (exponent ++ rest).head? ≠ some '.' := by
    cases hexponent with
    | none =>
      refine ⟨hrest.noDigit, ?_⟩
      intro hpoint
      exact (hrest '.' hpoint).2.1 rfl
    | digits he => rcases he with rfl | rfl <;> simp [NoDigit]
  have hfractionRest : NoDigit (fraction ++ (exponent ++ rest)) := by
    cases hfraction with
    | none => exact hexponentRest.1
    | digits => simp [NoDigit]
  obtain ⟨e, he⟩ := exponentPart_append cause hexponent hrest
  have hread (below : Bool) : read cause below (whole ++ (fraction ++ (exponent ++ rest))) =
      .ok (⟨below, whole, fraction.tail, e⟩, rest) := by
    simp only [read, bind, Except.bind, wholePart_append hwhole hfractionRest,
      fractionPart_append hfraction hexponentRest.1 hexponentRest.2, he]
    rfl
  rcases hsign with rfl | rfl
  · refine ⟨⟨false, whole, fraction.tail, e⟩, ?_⟩
    rw [List.nil_append, List.append_assoc, List.append_assoc, readSigned]
    · exact hread false
    · obtain ⟨c, v, rfl, hc⟩ := hwhole.exists_cons
      rintro rest' heq
      obtain rfl := (List.cons.inj heq).1
      cases hc
  · refine ⟨⟨true, whole, fraction.tail, e⟩, ?_⟩
    rw [List.append_assoc, List.append_assoc, List.append_assoc, List.singleton_append, readSigned]
    exact hread true

/-! ### What is read has the right form -/

lemma digits_of_someDigits {s w rest : List Char} (h : someDigits cause s = .ok (w, rest)) :
    s = w ++ rest ∧ Digits w := by
  unfold someDigits fault faultAhead at h
  split at h
  · cases h
  · next c s =>
    split_ifs at h with hc
    cases h
    refine ⟨List.takeWhile_append_dropWhile.symm, ?_, fun d hd => List.mem_takeWhile_imp hd⟩
    rw [List.takeWhile_cons_of_pos hc]
    exact List.cons_ne_nil _ _

lemma wholeText_of_wholePart {s w rest : List Char} (h : wholePart cause s = .ok (w, rest)) :
    s = w ++ rest ∧ WholeText w := by
  unfold wholePart faultAhead at h
  split at h
  · split_ifs at h
    cases h
    exact ⟨rfl, .zero⟩
  · next hzero =>
    obtain ⟨rfl, hdigits⟩ := digits_of_someDigits h
    refine ⟨rfl, ?_⟩
    obtain ⟨c, v, rfl⟩ := List.exists_cons_of_ne_nil hdigits.1
    by_cases hc : c = '0'
    · subst hc
      cases v with
      | nil => exact .zero
      | cons d v => exact absurd rfl (hzero d (v ++ rest))
    · exact .digits hdigits (by simpa using hc)

lemma fractionText_of_fractionPart {s w rest : List Char}
    (h : fractionPart cause s = .ok (w, rest)) : ∃ v, s = v ++ rest ∧ FractionText v := by
  unfold fractionPart at h
  split at h
  · obtain ⟨rfl, hdigits⟩ := digits_of_someDigits h
    exact ⟨'.' :: w, rfl, .digits hdigits⟩
  · cases h
    exact ⟨[], rfl, .none⟩

lemma exponentText_of_exponentPart {s rest : List Char} {e : Option (Bool × List Char)}
    (h : exponentPart cause s = .ok (e, rest)) : ∃ v, s = v ++ rest ∧ ExponentText v := by
  unfold exponentPart at h
  split at h
  · cases h
    exact ⟨[], rfl, .none⟩
  · next c s =>
    split_ifs at h with hc
    · split at h
      next below digits hsplit =>
      obtain ⟨⟨w, rest'⟩, hread, hmap⟩ := map_eq_ok h
      cases hmap
      obtain ⟨rfl, hdigits⟩ := digits_of_someDigits hread
      split at hsplit <;> obtain ⟨-, rfl⟩ := Prod.mk.inj hsplit
      · exact ⟨c :: (['+'] ++ w), by simp, .digits hc (.inr (.inl rfl)) hdigits⟩
      · exact ⟨c :: (['-'] ++ w), by simp, .digits hc (.inr (.inr rfl)) hdigits⟩
      · exact ⟨c :: ([] ++ w), by simp, .digits hc (.inl rfl) hdigits⟩
    · cases h
      exact ⟨[], rfl, .none⟩

lemma numeralText_of_read {below : Bool} {sign s rest : List Char} {numeral : Numeral}
    (hsign : sign = [] ∨ sign = ['-']) (h : read cause below s = .ok (numeral, rest)) :
    ∃ w, sign ++ s = w ++ rest ∧ NumeralText w := by
  obtain ⟨⟨whole, s₁⟩, hwhole, h⟩ := bind_eq_ok h
  obtain ⟨⟨fraction, s₂⟩, hfraction, h⟩ := bind_eq_ok h
  obtain ⟨⟨exponent, s₃⟩, hexponent, h⟩ := bind_eq_ok h
  cases h
  obtain ⟨rfl, hu⟩ := wholeText_of_wholePart hwhole
  obtain ⟨v, rfl, hv⟩ := fractionText_of_fractionPart hfraction
  obtain ⟨w, rfl, hw⟩ := exponentText_of_exponentPart hexponent
  exact ⟨sign ++ (whole ++ (v ++ w)), by simp, .mk hsign hu hv hw⟩

lemma numeralText_of_readSigned {s rest : List Char} {numeral : Numeral}
    (h : readSigned cause s = .ok (numeral, rest)) : ∃ w, s = w ++ rest ∧ NumeralText w := by
  unfold readSigned at h
  split at h
  · exact numeralText_of_read (.inr rfl) h
  · exact numeralText_of_read (.inl rfl) h

end Numeral

lemma skipNumber_append {w rest : List Char} (h : NumeralText w) (hrest : Delimited rest) :
    skipNumber (w ++ rest) = .ok ((), rest) := by
  obtain ⟨numeral, hread⟩ := Numeral.readSigned_append .numberInvalid h hrest
  rw [skipNumber, hread]
  rfl

lemma numeralText_of_skipNumber {s rest : List Char} (h : skipNumber s = .ok ((), rest)) :
    ∃ w, s = w ++ rest ∧ NumeralText w := by
  rw [skipNumber] at h
  rcases hread : Numeral.readSigned .numberInvalid s with f | ⟨numeral, rest'⟩
  · rw [hread] at h
    cases h
  · rw [hread] at h
    cases h
    exact Numeral.numeralText_of_readSigned hread

end Json

end RoomDraw
