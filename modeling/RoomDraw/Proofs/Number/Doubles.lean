import RoomDraw.Proofs.Number.Rounding

/-!
# Doubles are correctly rounded

A quotient is rounded as if all doubles had been tried: none of them is nearer, and of two equally
near the one is taken whose word ends in a zero. What is compared are the numbers that
double-precision words stand for, so that it plays no part how the rounding finds its value.
-/

namespace RoomDraw

/-- The numbers that double-precision words stand for. -/
def doubles : Set ℚ := {x | ∃ word : UInt64, (Double.ofBits word).toRat? = some x}

/-- Those of the words that end in a zero. -/
def evenDoubles : Set ℚ :=
  {x | ∃ word : UInt64, Even word.toNat ∧ (Double.ofBits word).toRat? = some x}

/-! ### Words -/

namespace Double

variable {field fraction : Nat}

lemma toNat_word (hfield : field < 2047) (hfraction : fraction < hiddenDigit) :
    (UInt64.ofNat (field * hiddenDigit + fraction)).toNat = field * hiddenDigit + fraction := by
  have hdigit : hiddenDigit = 2 ^ 52 := rfl
  rw [hdigit] at hfraction ⊢
  rw [UInt64.toNat_ofNat']
  omega

/-- A word ends as its fraction does. -/
lemma even_word (hfield : field < 2047) (hfraction : fraction < hiddenDigit)
    (heven : Even fraction) : Even (UInt64.ofNat (field * hiddenDigit + fraction)).toNat := by
  rw [toNat_word hfield hfraction]
  exact ((by decide : Even hiddenDigit).mul_left field).add heven

lemma ofBits_word (hfield : field < 2047) (hfraction : fraction < hiddenDigit) :
    ofBits (.ofNat (field * hiddenDigit + fraction)) =
      .finite false (if field = 0 then ⟨fraction, -1074⟩
        else ⟨hiddenDigit + fraction, (field : Int) - 1075⟩) := by
  have hdigit : hiddenDigit = 2 ^ 52 := rfl
  have hword := toNat_word hfield hfraction
  rw [hdigit] at hfraction hword ⊢
  have hfraction' : (field * 2 ^ 52 + fraction) % 2 ^ 52 = fraction := by omega
  have hfield' : (field * 2 ^ 52 + fraction) / 2 ^ 52 % 2048 = field := by omega
  have hpositive : ¬0x8000000000000000 ≤ field * 2 ^ 52 + fraction := by omega
  simp only [ofBits, hdigit, hword, hfraction', hfield', hpositive, decide_false, if_neg hfield.ne]
  split_ifs <;> rfl

end Double

/-- A double has at most fifty-three digits, and its exponent is not below the least. -/
lemma exists_of_mem_doubles {y : ℚ} (h : y ∈ doubles) :
    ∃ mantissa exponent : ℤ,
      mantissa < 2 ^ 53 ∧ -1074 ≤ exponent ∧ y = mantissa * 2 ^ exponent := by
  obtain ⟨word, hword⟩ := h
  have hmagnitude : ∀ negative magnitude, Double.ofBits word = .finite negative magnitude →
      magnitude.mantissa < 2 ^ 53 ∧ -1074 ≤ magnitude.exponent := by
    intro negative magnitude hbits
    have hfraction : word.toNat % Double.hiddenDigit < 2 ^ 52 := Nat.mod_lt _ (by decide)
    have hdigit : Double.hiddenDigit = 2 ^ 52 := rfl
    simp only [Double.ofBits] at hbits
    split_ifs at hbits <;> cases hbits <;> constructor <;> dsimp only <;> omega
  rcases hbits : Double.ofBits word with _ | _ | ⟨negative, magnitude⟩
  · simp [hbits, Double.toRat?] at hword
  · simp [hbits, Double.toRat?] at hword
  obtain ⟨hmantissa, hexponent⟩ := hmagnitude negative magnitude hbits
  rw [hbits] at hword
  cases negative with
  | false =>
    refine ⟨magnitude.mantissa, magnitude.exponent, by exact_mod_cast hmantissa, hexponent, ?_⟩
    exact (Option.some.inj hword).symm
  | true =>
    refine ⟨-magnitude.mantissa, magnitude.exponent, by omega, hexponent, ?_⟩
    rw [← Option.some.inj hword, Binary.toRat]
    push_cast
    ring

/-! ### Rounded values -/

namespace Binary

/-- A value as rounding to double precision gives it: all fifty-three digits are used, unless the
exponent is the least one. -/
structure Normalized (x : Binary) : Prop where
  mantissa_le : x.mantissa ≤ 2 ^ 53
  exponent_le : x.exponent ≤ 970
  eq_zero_or : x.mantissa = 0 ∨ x.exponent = -1074 ∨ -1074 ≤ x.exponent ∧ 2 ^ 52 ≤ x.mantissa

namespace Normalized

variable {x : Binary}

/-- A value without a full mantissa has the least exponent, or is zero. -/
lemma ofBits_toBits_of_lt (h : x.Normalized) (hsmall : x.mantissa < Double.hiddenDigit) :
    (Double.ofBits x.toBits).toRat? = some x.toRat ∧ (Even x.mantissa → Even x.toBits.toNat) := by
  have hdigit : Double.hiddenDigit = 2 ^ 52 := rfl
  have hbits := Double.ofBits_word (Nat.zero_lt_succ 2046) hsmall
  have heven := Double.even_word (Nat.zero_lt_succ 2046) hsmall
  rw [Nat.zero_mul, Nat.zero_add] at hbits heven
  rw [toBits, if_pos hsmall, hbits, if_pos rfl]
  refine ⟨?_, heven⟩
  rcases h.eq_zero_or with hzero | hexp | hexp
  · simp [Double.toRat?, toRat, hzero]
  · simp [Double.toRat?, toRat, hexp]
  · omega

/-- The word of a value stands for the value, and ends as its mantissa does. -/
lemma ofBits_toBits (h : x.Normalized) :
    (Double.ofBits x.toBits).toRat? = some x.toRat ∧ (Even x.mantissa → Even x.toBits.toNat) := by
  have hdigit : Double.hiddenDigit = 2 ^ 52 := rfl
  rcases lt_or_ge x.mantissa Double.hiddenDigit with hsmall | hlarge
  · exact h.ofBits_toBits_of_lt hsmall
  obtain ⟨hmantissa, hexponent, hcases⟩ := h
  obtain ⟨k, hk⟩ : ∃ k : ℕ, x.exponent + 1075 = k + 1 :=
    ⟨(x.exponent + 1074).toNat, by omega⟩
  have hfield : (x.exponent + 1075).toNat = k + 1 := by omega
  by_cases hcarried : x.mantissa = 2 * Double.hiddenDigit
  · -- the carry makes a power of two, whose fraction is zero
    simp only [toBits, if_neg hlarge.not_gt, if_pos hcarried, hfield]
    rw [if_neg (by omega), Double.ofBits_word (by omega) (by decide), if_neg (by omega)]
    refine ⟨?_, fun _ => Double.even_word (by omega) (by decide) (by decide)⟩
    have hexp : ((k + 1 + 1 : ℕ) : ℤ) - 1075 = x.exponent + 1 := by omega
    rw [Double.toRat?, toRat, toRat, hcarried, hexp, zpow_add_one₀ two_ne_zero]
    push_cast
    congr 1
    ring
  · simp only [toBits, if_neg hlarge.not_gt, if_neg hcarried, hfield, Nat.add_zero]
    rw [if_neg (by omega), Double.ofBits_word (by omega) (by omega), if_neg (by omega)]
    refine ⟨?_, fun heven => Double.even_word (by omega) (by omega) ?_⟩
    · have hexp : ((k + 1 : ℕ) : ℤ) - 1075 = x.exponent := by omega
      rw [Double.toRat?, toRat, toRat, hexp, Nat.add_sub_cancel' hlarge]
    · exact (Nat.even_sub hlarge).mpr (iff_of_true heven (by decide))

lemma mem_doubles (h : x.Normalized) : x.toRat ∈ doubles := ⟨x.toBits, h.ofBits_toBits.1⟩

lemma mem_evenDoubles (h : x.Normalized) (heven : Even x.mantissa) : x.toRat ∈ evenDoubles :=
  ⟨x.toBits, h.ofBits_toBits.2 heven, h.ofBits_toBits.1⟩

end Normalized

variable {num den : Nat}

/-- Neither bound on the quotient, in units of the exponent, is crossed by the mantissa. -/
lemma le_mantissa_ofRatio (format : BinaryFormat) (hden : 0 < den) {k : Nat}
    (h : (k : ℚ) * 2 ^ exponentFor format num den ≤ num / den) :
    k ≤ (ofRatio format num den).mantissa := by
  have hunit : (0 : ℚ) < 2 ^ exponentFor format num den := by positivity
  have hle := (roundedToEven_ofRatio format num hden).le_of_le ⟨k, by rw [Int.cast_natCast]⟩ h
  exact_mod_cast le_of_mul_le_mul_right hle hunit

lemma mantissa_ofRatio_le (format : BinaryFormat) (hden : 0 < den) {k : Nat}
    (h : (num / den : ℚ) ≤ k * 2 ^ exponentFor format num den) :
    (ofRatio format num den).mantissa ≤ k := by
  have hunit : (0 : ℚ) < 2 ^ exponentFor format num den := by positivity
  have hle := (roundedToEven_ofRatio format num hden).ge_of_ge ⟨k, by rw [Int.cast_natCast]⟩ h
  exact_mod_cast le_of_mul_le_mul_right hle hunit

/-- A quotient below half of what double precision reaches is rounded to a double. -/
lemma normalized_ofRatio (hden : 0 < den) (hbound : (num / den : ℚ) < 2 ^ 1023) :
    (ofRatio .double num den).Normalized := by
  have hexp : exponentFor .double num den = max (-1074) (digitsBeforePoint num den - 53) := rfl
  refine ⟨mantissa_ofRatio_le _ hden ?_, ?_, ?_⟩
  · calc (num / den : ℚ) ≤ 2 ^ digitsBeforePoint num den :=
          (lt_two_zpow_digitsBeforePoint num hden).le
      _ ≤ 2 ^ (53 + exponentFor .double num den) :=
          zpow_le_zpow_right₀ one_le_two (by rw [hexp]; omega)
      _ = ((2 ^ 53 : ℕ) : ℚ) * 2 ^ exponentFor .double num den := by
          rw [zpow_add₀ two_ne_zero]
          norm_num
  · show exponentFor .double num den ≤ 970
    by_cases hnum : num = 0
    · have hdigits : digitsBeforePoint num den ≤ 1 := by
        rw [digitsBeforePoint, hnum, Nat.log2_zero]
        split_ifs <;> omega
      omega
    · have hlt := (two_zpow_le_of_digitsBeforePoint hnum hden).trans_lt hbound
      rw [← zpow_natCast] at hlt
      have hdigits := (zpow_lt_zpow_iff_right₀ (one_lt_two : (1 : ℚ) < 2)).mp hlt
      omega
  · by_cases hnum : num = 0
    · left
      simp [ofRatio, roundHalfEven, hnum]
    rcases le_or_gt (digitsBeforePoint num den - 53) (-1074) with hsmall | hlarge
    · right; left
      exact hexp.trans (max_eq_left hsmall)
    · have hexp : exponentFor .double num den = digitsBeforePoint num den - 53 :=
        hexp.trans (max_eq_right hlarge.le)
      right; right
      refine ⟨hlarge.le.trans_eq hexp.symm, le_mantissa_ofRatio _ hden ?_⟩
      calc ((2 ^ 52 : ℕ) : ℚ) * 2 ^ exponentFor .double num den
          = 2 ^ (52 + exponentFor .double num den) := by
            rw [zpow_add₀ two_ne_zero]
            norm_num
        _ = 2 ^ (digitsBeforePoint num den - 1) := by
            congr 1
            omega
        _ ≤ num / den := two_zpow_le_of_digitsBeforePoint hnum hden

lemma mul_two_zpow_mem_multiples (mantissa : ℤ) {e exponent : ℤ} (h : e ≤ exponent) :
    (mantissa : ℚ) * 2 ^ exponent ∈ multiples (2 ^ e) := by
  obtain ⟨k, rfl⟩ := Int.le.dest h
  refine ⟨mantissa * 2 ^ k, ?_⟩
  rw [zpow_add₀ two_ne_zero, zpow_natCast]
  push_cast
  ring

/-- A quotient is rounded to the nearest of all doubles, and to the even one of two equally near. -/
lemma roundedToEven_ofRatio_double (hden : 0 < den) (hbound : (num / den : ℚ) < 2 ^ 1023) :
    RoundedToEven doubles evenDoubles (num / den) (ofRatio .double num den).toRat := by
  have hnormalized := normalized_ofRatio hden hbound
  have hunit := roundedToEven_ofRatio .double num hden
  by_cases hnum : num = 0
  · have hzero : (ofRatio .double num den).toRat = num / den := by
      simp [toRat, ofRatio, roundHalfEven, hnum]
    refine ⟨hnormalized.mem_doubles, fun y _ => ?_, fun y _ hne htie => ?_⟩
    · rw [hzero, sub_self, abs_zero]
      exact abs_nonneg _
    · rw [hzero, sub_self, abs_zero, abs_eq_zero, sub_eq_zero] at htie
      exact absurd (htie.trans hzero.symm) hne
  · -- a double is a multiple of the unit, or it has a smaller exponent and is farther away
    have hdoubles : ∀ y ∈ doubles, y ∈ multiples (2 ^ exponentFor .double num den) ∨
        |(ofRatio .double num den).toRat - num / den| < |y - num / den| := by
      intro y hy
      obtain ⟨mantissa, exponent, hmantissa, hmin, rfl⟩ := exists_of_mem_doubles hy
      rcases le_or_gt (exponentFor .double num den) exponent with hle | hlt
      · exact .inl (mul_two_zpow_mem_multiples mantissa hle)
      · exact .inr (dist_lt_of_lt_exponentFor hden hnum (by decide) hmantissa hmin hlt)
    refine ⟨hnormalized.mem_doubles, fun y hy => ?_, fun y hy hne htie => ?_⟩
    · exact (hdoubles y hy).elim (hunit.dist_le y) le_of_lt
    · rcases hdoubles y hy with hmem | hlt
      · obtain ⟨half, hhalf⟩ := hunit.even_of_tie y hmem hne htie
        refine hnormalized.mem_evenDoubles ?_
        have hpos : (2 : ℚ) ^ exponentFor .double num den ≠ 0 := by positivity
        have hmantissa : ((ofRatio .double num den).mantissa : ℚ) = 2 * half := by
          refine mul_right_cancel₀ hpos ?_
          rw [mul_comm 2, mul_assoc]
          exact hhalf
        have hmantissa : ((ofRatio .double num den).mantissa : ℤ) = 2 * half := by
          exact_mod_cast hmantissa
        rw [Nat.even_iff]
        omega
      · exact absurd htie hlt.ne'

end Binary

end RoomDraw
