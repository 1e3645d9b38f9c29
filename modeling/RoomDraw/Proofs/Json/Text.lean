import Mathlib.Tactic.SplitIfs
import RoomDraw.Json.Text
import RoomDraw.Manifest.Printer

/-!
# Strings that are read back

Reading a string goes on character by character: one lemma for a character that stands for itself,
one for an escape, and one for the closing quote. Every character is read back from the form that
it is written in, and so is every string.
-/

namespace RoomDraw

namespace Json

/-! ### Escapes -/

/-- Four hexadecimal digits are read as the code unit that they spell. -/
lemma hexDigits_eq {a b c d : Char} {i j k l : Nat} (rest : List Char)
    (ha : hexDigit? a = some i) (hb : hexDigit? b = some j) (hc : hexDigit? c = some k)
    (hd : hexDigit? d = some l) :
    hexDigits (a :: b :: c :: d :: rest) = .ok (((i * 16 + j) * 16 + k) * 16 + l, rest) := by
  have := a.utf8Size_pos
  have := b.utf8Size_pos
  have := c.utf8Size_pos
  have := d.utf8Size_pos
  have hsize : ¬ Utf8.width ((a :: b :: c :: d :: rest).take 4) < 4 := by
    simp only [List.take_succ_cons, List.take_zero, Utf8.width, List.foldr_cons, List.foldr_nil]
    omega
  simp only [hexDigits, if_neg hsize, ha, hb, hc, hd]

/-- The escape of a code unit that is no half of a pair. -/
lemma escape_unit {s rest : List Char} {unit : Nat} (h : hexDigits s = .ok (unit, rest))
    (htrail : isTrail unit = false) (hlead : isLead unit = false) :
    escape ('u' :: s) = .ok (.ofNat unit, rest) := by
  simp [escape, h, htrail, hlead]

/-- The short escape of a character. -/
lemma escape_short {c d : Char} (rest : List Char) (h : shortEscape? c = some d) :
    escape (c :: rest) = .ok (d, rest) := by
  have hu : c ≠ 'u' := by
    rintro rfl
    simp [shortEscape?] at h
  rw [escape]
  · simp [h]
  · simpa using hu

/-! ### One character -/

lemma readText_quote (before rest : List Char) :
    readText before ('"' :: rest) = .ok (.ofList before.reverse, rest) := by
  rw [readText, if_pos rfl]

/-- A character that is neither a control, a quote nor a backslash stands for itself. -/
lemma readText_plain {c : Char} (before rest : List Char) (hquote : c ≠ '"')
    (hbackslash : c ≠ '\\') (hcontrol : ¬ c < ' ') :
    readText before (c :: rest) = readText (c :: before) rest := by
  rw [readText, if_neg hquote, if_neg hbackslash, if_neg hcontrol]

/-- An escape stands for the character that it spells. -/
lemma readText_escape {s rest : List Char} {c : Char} (before : List Char)
    (h : escape s = .ok (c, rest)) :
    readText before ('\\' :: s) = readText (c :: before) rest := by
  rw [readText, if_neg (by decide), if_pos rfl]
  split
  · rename_i hfault
    rw [hfault] at h
    cases h
  · rename_i hread
    rw [hread] at h
    cases h
    rfl

/-! ### Written strings -/

lemma hexDigit?_hexDigit : ∀ n < 16, hexDigit? (Manifest.hexDigit n) = some n := by decide

/-- A control character is read back from the number that its escape spells. -/
lemma escape_control {c : Char} (rest : List Char) (h : c < ' ') :
    escape ('u' :: '0' :: '0' :: Manifest.hexDigit (c.toNat / 16) ::
      Manifest.hexDigit (c.toNat % 16) :: rest) = .ok (c, rest) := by
  have hlt : c.toNat < 32 := h
  have hzero : hexDigit? '0' = some 0 := rfl
  have hdigits := hexDigits_eq rest hzero hzero
    (hexDigit?_hexDigit (c.toNat / 16) (by omega)) (hexDigit?_hexDigit (c.toNat % 16) (by omega))
  have hunit : ((0 * 16 + 0) * 16 + c.toNat / 16) * 16 + c.toNat % 16 = c.toNat := by omega
  have htrail : isTrail c.toNat = false := by simp [isTrail]; omega
  have hlead : isLead c.toNat = false := by simp [isLead]; omega
  rw [hunit] at hdigits
  rw [escape_unit hdigits htrail hlead, Char.ofNat_toNat]

/-- Every character is read back from the form in which it is written. -/
lemma readText_escaped (before rest : List Char) (c : Char) :
    readText before (Manifest.escaped c ++ rest) = readText (c :: before) rest := by
  unfold Manifest.escaped
  split
  case h_8 hquote hbackslash _ _ _ _ _ =>
    split_ifs with hcontrol
    · exact readText_escape before (escape_control rest hcontrol)
    · exact readText_plain before rest hquote hbackslash hcontrol
  all_goals exact readText_escape before (escape_short rest rfl)

/-- Every string is read back up to its closing quote. -/
lemma readText_flatMap_escaped (before s rest : List Char) :
    readText before (s.flatMap Manifest.escaped ++ '"' :: rest) =
      .ok (.ofList (before.reverse ++ s), rest) := by
  induction s generalizing before with
  | nil => simp [readText_quote]
  | cons c s ih =>
    rw [List.flatMap_cons, List.append_assoc, readText_escaped, ih]
    simp

lemma readText_spelled (s : String) (rest : List Char) :
    readText [] (s.toList.flatMap Manifest.escaped ++ '"' :: rest) = .ok (s, rest) := by
  rw [readText_flatMap_escaped]
  simp

end Json

end RoomDraw
