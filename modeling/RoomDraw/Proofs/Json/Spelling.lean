import RoomDraw.Proofs.Json.Grammar

/-!
# Strings are read as the grammar has them

Every spelling of a string is read as that string, every text of the right form is passed over, and
what is read or passed over has the right form.
-/

namespace RoomDraw

namespace Json

/-! ### Escapes -/

lemma le_iff_toNat_le {c d : Char} : c ≤ d ↔ c.toNat ≤ d.toNat := Iff.rfl

lemma isDigit_iff {c : Char} : c.isDigit = true ↔ '0' ≤ c ∧ c ≤ '9' := by
  simp only [Char.isDigit, Bool.and_eq_true, decide_eq_true_eq]
  rfl

lemma hexDigit?_eq_some_iff {c : Char} {n : Nat} : hexDigit? c = some n ↔ HexDigit c n := by
  have hdecimal : '0'.toNat = 48 ∧ '9'.toNat = 57 := by decide
  have hlower : 'a'.toNat = 97 ∧ 'f'.toNat = 102 := by decide
  have hupper : 'A'.toNat = 65 ∧ 'F'.toNat = 70 := by decide
  simp only [hexDigit?, HexDigit, isDigit_iff, le_iff_toNat_le]
  split_ifs
  · rw [Option.some.injEq]
    omega
  · rw [Option.some.injEq]
    omega
  · rw [Option.some.injEq]
    omega
  · exact iff_of_false nofun (by omega)

lemma mem_shortEscapes_iff {c d : Char} : (c, d) ∈ shortEscapes ↔ shortEscape? c = some d := by
  constructor
  · have hall : ∀ p ∈ shortEscapes, shortEscape? p.1 = some p.2 := by decide
    exact hall (c, d)
  · intro h
    unfold shortEscape? at h
    split at h <;> cases h <;> decide

lemma hexDigits_hexUnit {unit : List Char} {n : Nat} (h : HexUnit unit n) (rest : List Char) :
    hexDigits (unit ++ rest) = .ok (n, rest) := by
  cases h with
  | mk ha hb hc hd =>
    rw [← hexDigit?_eq_some_iff] at ha hb hc hd
    exact hexDigits_eq rest ha hb hc hd

lemma hexUnit_of_hexDigits {s rest : List Char} {n : Nat} (h : hexDigits s = .ok (n, rest)) :
    ∃ unit, HexUnit unit n ∧ s = unit ++ rest := by
  unfold hexDigits fault at h
  split at h
  · cases h
  · split at h
    · next a b c d rest' _ =>
      split at h
      · next i j k l ha hb hc hd =>
        cases h
        rw [hexDigit?_eq_some_iff] at ha hb hc hd
        exact ⟨[a, b, c, d], .mk ha hb hc hd, rfl⟩
      · cases h
    · cases h

/-- No character is half of a pair. -/
lemma not_half (c : Char) : isTrail c.toNat = false ∧ isLead c.toNat = false := by
  have hvalid : c.toNat < 0xD800 ∨ 0xDFFF < c.toNat ∧ c.toNat < 0x110000 := c.valid
  simp only [isTrail, isLead, Bool.and_eq_false_iff, decide_eq_false_iff_not]
  omega

/-- The escape of a character by its code point is read as the character. -/
lemma escape_codePoint {c : Char} {unit : List Char} (h : HexUnit unit c.toNat) (rest : List Char) :
    escape ('u' :: (unit ++ rest)) = .ok (c, rest) := by
  rw [escape_unit (hexDigits_hexUnit h rest) (not_half c).1 (not_half c).2, Char.ofNat_toNat]

/-- The escapes of the two units of a pair are read as the character that they spell. -/
lemma escape_pair {c : Char} {lead trail : List Char} (hc : 0x10000 ≤ c.toNat)
    (hlead : HexUnit lead (0xD800 + (c.toNat - 0x10000) / 0x400))
    (htrail : HexUnit trail (0xDC00 + (c.toNat - 0x10000) % 0x400)) (rest : List Char) :
    escape ('u' :: (lead ++ '\\' :: 'u' :: (trail ++ rest))) = .ok (c, rest) := by
  have hvalid : c.toNat < 0xD800 ∨ 0xDFFF < c.toNat ∧ c.toNat < 0x110000 := c.valid
  have hsum : (0xD800 + (c.toNat - 0x10000) / 0x400 - 0xD800) * 0x400 +
      (0xDC00 + (c.toNat - 0x10000) % 0x400 - 0xDC00) + 0x10000 = c.toNat := by omega
  have hnot : isTrail (0xD800 + (c.toNat - 0x10000) / 0x400) = false := by
    simp [isTrail]
    omega
  have hfirst : isLead (0xD800 + (c.toNat - 0x10000) / 0x400) = true := by
    simp [isLead]
    omega
  have hsecond : isTrail (0xDC00 + (c.toNat - 0x10000) % 0x400) = true := by
    simp [isTrail]
    omega
  simp only [escape, hexDigits_hexUnit hlead, hnot, hfirst, trailEscape, hexDigits_hexUnit htrail,
    hsecond, pairChar, hsum, Char.ofNat_toNat, if_true, Bool.false_eq_true, if_false]

/-! ### Spellings are read -/

lemma readText_spelling {s w : List Char} (h : Spelling s w) (before rest : List Char) :
    readText before (w ++ '"' :: rest) = .ok (.ofList (before.reverse ++ s), rest) := by
  induction h generalizing before with
  | nil => simp [readText_quote]
  | plain hc _ ih =>
    rw [List.cons_append, readText_plain before _ hc.1 hc.2.1 hc.2.2, ih]
    simp
  | short hmem _ ih =>
    rw [mem_shortEscapes_iff] at hmem
    rw [List.cons_append, List.cons_append, readText_escape before (escape_short _ hmem), ih]
    simp
  | unit hunit _ ih =>
    rw [List.cons_append, List.cons_append, List.append_assoc,
      readText_escape before (escape_codePoint hunit _), ih]
    simp
  | @pair c lead trail s w hc hlead htrail _ ih =>
    have hpair := escape_pair hc hlead htrail (w ++ '"' :: rest)
    simp only [List.cons_append, List.append_assoc]
    rw [readText_escape before hpair, ih]
    simp

/-- Every spelling of a string is read as that string. -/
lemma readText_of_spelled {s : String} {w : List Char} (h : Spelled s w) (rest : List Char) :
    readText [] (w ++ '"' :: rest) = .ok (s, rest) := by
  simp [readText_spelling h]

/-! ### Texts of the right form are passed over -/

lemma Spelling.rawText {s w : List Char} (h : Spelling s w) : RawText w := by
  induction h with
  | nil => exact .nil
  | plain hc _ ih => exact .plain hc ih
  | short hmem _ ih => exact .short hmem ih
  | unit hunit _ ih => exact .unit hunit ih
  | pair _ hlead htrail _ ih => exact .unit hlead (.unit htrail ih)

lemma skipText_escape {s rest : List Char} (h : skipEscape s = .ok ((), rest)) :
    skipText ('\\' :: s) = skipText rest := by
  rw [skipText, if_neg (by decide), if_pos rfl]
  split
  · rename_i hfault
    rw [hfault] at h
    cases h
  · rename_i hskip
    rw [hskip] at h
    cases h
    rfl

lemma skipText_rawText {w : List Char} (h : RawText w) (rest : List Char) :
    skipText (w ++ '"' :: rest) = .ok ((), rest) := by
  induction h with
  | nil => rw [List.nil_append, skipText, if_pos rfl]
  | plain hc _ ih =>
    rw [List.cons_append, skipText, if_neg hc.1, if_neg hc.2.1, if_neg hc.2.2, ih]
  | @short c d w hmem _ ih =>
    rw [mem_shortEscapes_iff] at hmem
    have hu : c ≠ 'u' := by
      rintro rfl
      simp [shortEscape?] at hmem
    have hskip : skipEscape (c :: (w ++ '"' :: rest)) = .ok ((), w ++ '"' :: rest) := by
      rw [skipEscape]
      · simp [hmem]
      · simpa using hu
    rw [List.cons_append, List.cons_append, skipText_escape hskip, ih]
  | @unit unit n w hunit _ ih =>
    have hskip : skipEscape ('u' :: (unit ++ (w ++ '"' :: rest))) = .ok ((), w ++ '"' :: rest) := by
      rw [skipEscape, hexDigits_hexUnit hunit]
      rfl
    rw [List.cons_append, List.cons_append, List.append_assoc, skipText_escape hskip, ih]

/-! ### What is read has the right form -/

/-- Behind a backslash the text goes on with an escape of the right form. -/
def EscapeText (w : List Char) : Prop := ∀ v, RawText v → RawText ('\\' :: (w ++ v))

lemma escapeText_of_trailEscape {lead : Nat} {s rest : List Char} {c : Char}
    (h : trailEscape lead s = .ok (c, rest)) :
    ∃ w, s = '\\' :: (w ++ rest) ∧ EscapeText w := by
  unfold trailEscape fault faultAhead at h
  split at h
  all_goals try cases h
  next rest' =>
    split at h
    · cases h
    · next trail rest' hdigits =>
      obtain ⟨unit, hunit, rfl⟩ := hexUnit_of_hexDigits hdigits
      split at h
      · simp only [Except.ok.injEq, Prod.mk.injEq] at h
        obtain ⟨-, rfl⟩ := h
        exact ⟨'u' :: unit, by simp, fun v hv => .unit hunit hv⟩
      · cases h

lemma escapeText_of_escape {s rest : List Char} {c : Char} (h : escape s = .ok (c, rest)) :
    ∃ w, s = w ++ rest ∧ EscapeText w := by
  unfold escape fault faultAhead at h
  split at h
  · cases h
  · split at h
    · cases h
    · next lead rest' hdigits =>
      obtain ⟨unit, hunit, rfl⟩ := hexUnit_of_hexDigits hdigits
      split at h
      · cases h
      · split at h
        · obtain ⟨w, rfl, hw⟩ := escapeText_of_trailEscape h
          refine ⟨'u' :: (unit ++ '\\' :: w), by simp, ?_⟩
          intro v hv
          rw [List.cons_append, List.append_assoc]
          exact .unit hunit (hw v hv)
        · cases h
          exact ⟨'u' :: unit, by simp, fun v hv => .unit hunit hv⟩
  · next c' rest' _ =>
    split at h
    · next d hshort =>
      cases h
      rw [← mem_shortEscapes_iff] at hshort
      exact ⟨[c'], rfl, fun v hv => .short hshort hv⟩
    · cases h

lemma escapeText_of_skipEscape {s rest : List Char} (h : skipEscape s = .ok ((), rest)) :
    ∃ w, s = w ++ rest ∧ EscapeText w := by
  unfold skipEscape fault faultAhead at h
  split at h
  · cases h
  · next s' =>
    rcases hdigits : hexDigits s' with f | ⟨n, rest'⟩
    · rw [hdigits] at h
      cases h
    · rw [hdigits] at h
      cases h
      obtain ⟨unit, hunit, rfl⟩ := hexUnit_of_hexDigits hdigits
      exact ⟨'u' :: unit, by simp, fun v hv => .unit hunit hv⟩
  · next c rest' _ =>
    split at h
    · next hshort =>
      cases h
      obtain ⟨d, hd⟩ := Option.isSome_iff_exists.mp hshort
      rw [← mem_shortEscapes_iff] at hd
      exact ⟨[c], rfl, fun v hv => .short hd hv⟩
    · cases h

/-- A string that was read stands before its closing quote. -/
lemma rawText_of_readText {before s rest : List Char} {t : String}
    (h : readText before s = .ok (t, rest)) : ∃ w, s = w ++ '"' :: rest ∧ RawText w := by
  fun_induction readText before s with
  | case1 => cases h
  | case2 before rest' =>
    cases h
    exact ⟨[], rfl, .nil⟩
  | case3 => cases h
  | case4 before rest' d next hescape _ ih =>
    obtain ⟨w, rfl, hw⟩ := ih h
    obtain ⟨v, rfl, hv⟩ := escapeText_of_escape hescape
    exact ⟨'\\' :: (v ++ w), by simp, hv w hw⟩
  | case5 => cases h
  | case6 before c rest' hquote hbackslash hcontrol ih =>
    obtain ⟨w, rfl, hw⟩ := ih h
    exact ⟨c :: w, rfl, .plain ⟨hquote, hbackslash, hcontrol⟩ hw⟩

lemma rawText_of_skipText {s rest : List Char} (h : skipText s = .ok ((), rest)) :
    ∃ w, s = w ++ '"' :: rest ∧ RawText w := by
  fun_induction skipText s with
  | case1 => cases h
  | case2 rest' =>
    cases h
    exact ⟨[], rfl, .nil⟩
  | case3 => cases h
  | case4 rest' next hescape _ ih =>
    obtain ⟨w, rfl, hw⟩ := ih h
    obtain ⟨v, rfl, hv⟩ := escapeText_of_skipEscape hescape
    exact ⟨'\\' :: (v ++ w), by simp, hv w hw⟩
  | case5 => cases h
  | case6 c rest' hquote hbackslash hcontrol ih =>
    obtain ⟨w, rfl, hw⟩ := ih h
    exact ⟨c :: w, rfl, .plain ⟨hquote, hbackslash, hcontrol⟩ hw⟩

end Json

end RoomDraw
