import Mathlib.Algebra.Order.Field.Power
import Mathlib.Algebra.Order.Group.Unbundled.Abs
import RoomDraw.Proofs.Number.Value

/-!
# Rounding to the nearest value, ties to even

What it is to be rounded is said of any set of values: none of them is nearer, and of two equally
near the even one is taken. Rounding never crosses a value. A quotient is so rounded to an integer,
and for any binary format to a value whose exponent suits it.
-/

namespace RoomDraw

/-- A number is rounded to the nearest of some values, and to an even one where another is equally
near. -/
structure RoundedToEven (values evens : Set ℚ) (q x : ℚ) : Prop where
  mem : x ∈ values
  dist_le : ∀ y ∈ values, |x - q| ≤ |y - q|
  even_of_tie : ∀ y ∈ values, y ≠ x → |y - q| = |x - q| → x ∈ evens

namespace RoundedToEven

variable {values evens : Set ℚ} {q x y : ℚ}

/-- A value that does not exceed the number does not exceed what it is rounded to. -/
lemma le_of_le (h : RoundedToEven values evens q x) (hy : y ∈ values) (hyq : y ≤ q) : y ≤ x := by
  by_contra hxy
  push Not at hxy
  have hdist := h.dist_le y hy
  rw [abs_of_nonpos (by linarith), abs_of_nonpos (by linarith)] at hdist
  linarith

lemma ge_of_ge (h : RoundedToEven values evens q x) (hy : y ∈ values) (hqy : q ≤ y) : x ≤ y := by
  by_contra hyx
  push Not at hyx
  have hdist := h.dist_le y hy
  rw [abs_of_nonneg (by linarith), abs_of_nonneg (by linarith)] at hdist
  linarith

end RoundedToEven

/-! ### Integers -/

/-- The integer multiples of a unit. The even ones are the multiples of two units. -/
def multiples (unit : ℚ) : Set ℚ := {x | ∃ k : ℤ, x = k * unit}

lemma natCast_mem_multiples {unit : ℚ} {k : Nat} (hunit : k * unit = 1) (n : Nat) :
    (n : ℚ) ∈ multiples unit := by
  refine ⟨(n * k : ℕ), ?_⟩
  push_cast
  rw [mul_assoc, hunit, mul_one]

/-- A quotient is its integer part and the remainder. -/
lemma div_eq_floor_add (num : Nat) {den : Nat} (hden : 0 < den) :
    (num / den : ℚ) = (num / den : ℕ) + (num % den : ℕ) / den := by
  have hden : (den : ℚ) ≠ 0 := by exact_mod_cast hden.ne'
  have hparts : (den : ℚ) * (num / den : ℕ) + (num % den : ℕ) = num := by
    exact_mod_cast Nat.div_add_mod num den
  field_simp
  linarith

/-- A rounded quotient is within half a unit of the quotient, and even if it is so far away. -/
lemma roundHalfEven_dist (num : Nat) {den : Nat} (hden : 0 < den) :
    |(roundHalfEven num den : ℚ) - num / den| ≤ 1 / 2 ∧
      (|(roundHalfEven num den : ℚ) - num / den| = 1 / 2 → Even (roundHalfEven num den)) := by
  have hpos : (0 : ℚ) < den := by exact_mod_cast hden
  have hlt : ((num % den : ℕ) : ℚ) < den := by exact_mod_cast Nat.mod_lt num hden
  have hrest : (0 : ℚ) ≤ (num % den : ℕ) / den := by positivity
  have hrest_lt : ((num % den : ℕ) : ℚ) / den < 1 := (div_lt_one hpos).mpr hlt
  rw [div_eq_floor_add num hden]
  simp only [roundHalfEven]
  split_ifs with hbelow habove
  · have hhalf : ((num % den : ℕ) : ℚ) / den < 1 / 2 := by
      rw [div_lt_div_iff₀ hpos two_pos]
      exact_mod_cast (by omega : num % den * 2 < 1 * den)
    have hdist : |((num / den : ℕ) : ℚ) - ((num / den : ℕ) + (num % den : ℕ) / den)| =
        (num % den : ℕ) / den := by
      rw [sub_add_cancel_left, abs_neg, abs_of_nonneg hrest]
    rw [hdist]
    exact ⟨hhalf.le, fun h => absurd h hhalf.ne⟩
  · have hhalf : (1 : ℚ) / 2 < (num % den : ℕ) / den := by
      rw [div_lt_div_iff₀ two_pos hpos]
      exact_mod_cast (by omega : 1 * den < num % den * 2)
    have hdist : |((num / den + 1 : ℕ) : ℚ) - ((num / den : ℕ) + (num % den : ℕ) / den)| =
        1 - (num % den : ℕ) / den := by
      push_cast
      rw [add_sub_add_left_eq_sub, abs_of_pos (by linarith)]
    rw [hdist]
    exact ⟨by linarith, fun h => by linarith⟩
  · have hhalf : ((num % den : ℕ) : ℚ) / den = 1 / 2 := by
      rw [div_eq_div_iff hpos.ne' two_ne_zero]
      exact_mod_cast (by omega : num % den * 2 = 1 * den)
    rw [hhalf]
    refine ⟨?_, fun _ => ?_⟩
    · rcases Nat.mod_two_eq_zero_or_one (num / den) with hmod | hmod
      · rw [hmod, Nat.add_zero, sub_add_cancel_left, abs_neg, abs_of_pos one_half_pos]
      · rw [hmod]
        push_cast
        rw [add_sub_add_left_eq_sub, abs_of_pos (by norm_num)]
        norm_num
    · rw [Nat.even_iff]
      omega

/-- What is within half a unit of a number is the nearest integer. Another one that is equally near
is half a unit away on the other side. -/
lemma roundedToEven_of_dist {q : ℚ} {n : Nat} (h : |(n : ℚ) - q| ≤ 1 / 2)
    (heven : |(n : ℚ) - q| = 1 / 2 → Even n) {unit : ℚ} (hunit : 0 < unit) :
    RoundedToEven (multiples unit) (multiples (2 * unit)) (q * unit) (n * unit) := by
  have hscale : ∀ a : ℚ, |a * unit - q * unit| = |a - q| * unit := by
    intro a
    rw [← sub_mul, abs_mul, abs_of_pos hunit]
  have hother : ∀ k : ℤ, (k : ℚ) ≠ n → 1 ≤ |(n : ℚ) - q| + |(k : ℚ) - q| := by
    intro k hk
    have hne : (k : ℤ) - n ≠ 0 := by
      rw [sub_ne_zero]
      exact_mod_cast hk
    have hone : (1 : ℚ) ≤ |(k : ℚ) - n| := by exact_mod_cast Int.one_le_abs hne
    have htriangle := abs_sub_le (k : ℚ) q n
    rw [abs_sub_comm q] at htriangle
    linarith
  constructor
  · exact ⟨n, by push_cast; rfl⟩
  · rintro _ ⟨k, rfl⟩
    rw [hscale, hscale]
    refine mul_le_mul_of_nonneg_right ?_ hunit.le
    by_cases hk : (k : ℚ) = n
    · rw [hk]
    · linarith [hother k hk]
  · rintro _ ⟨k, rfl⟩ hne htie
    rw [hscale, hscale] at htie
    have hdist : |(k : ℚ) - q| = |(n : ℚ) - q| := mul_right_cancel₀ hunit.ne' htie
    have hk : (k : ℚ) ≠ n := fun hk => hne (by rw [hk])
    obtain ⟨half, hhalf⟩ := heven (by linarith [hother k hk])
    refine ⟨half, ?_⟩
    rw [hhalf]
    push_cast
    ring

lemma roundedToEven_roundHalfEven (num : Nat) {den : Nat} (hden : 0 < den) {unit : ℚ}
    (hunit : 0 < unit) :
    RoundedToEven (multiples unit) (multiples (2 * unit)) (num / den * unit)
      (roundHalfEven num den * unit) :=
  roundedToEven_of_dist (roundHalfEven_dist num hden).1 (roundHalfEven_dist num hden).2 hunit

/-! ### Binary formats -/

namespace Binary

lemma two_zpow_eq_div (k : Int) :
    (2 : ℚ) ^ k = (Nat.pow 2 k.toNat : ℕ) / (Nat.pow 2 (-k).toNat : ℕ) := by
  have h := toRat_eq_div ⟨1, k⟩
  simpa [toRat, ratio] using h

lemma ratioBelow_iff (num : Nat) {den : Nat} (hden : 0 < den) (k : Int) :
    ratioBelow num den k = true ↔ (num / den : ℚ) < 2 ^ k := by
  have hden : (0 : ℚ) < den := by exact_mod_cast hden
  have hpow : (0 : ℚ) < (Nat.pow 2 (-k).toNat : ℕ) := by exact_mod_cast Nat.two_pow_pos _
  rw [two_zpow_eq_div, div_lt_div_iff₀ hden hpow, ratioBelow, decide_eq_true_eq, Nat.mul_comm den]
  norm_cast

/-- The digits before the point are as many as it takes to count up to the quotient. -/
lemma lt_two_zpow_digitsBeforePoint (num : Nat) {den : Nat} (hden : 0 < den) :
    (num / den : ℚ) < 2 ^ digitsBeforePoint num den := by
  rw [digitsBeforePoint]
  split_ifs with hbelow
  · exact (ratioBelow_iff num hden _).mp hbelow
  · have hnum : (num : ℚ) < 2 ^ (Nat.log2 num + 1) := by exact_mod_cast Nat.lt_log2_self
    have hlog : (2 : ℚ) ^ Nat.log2 den ≤ den := by exact_mod_cast Nat.log2_self_le hden.ne'
    have hexp : ((Nat.log2 num : ℤ) - Nat.log2 den + 1) =
        ((Nat.log2 num + 1 : ℕ) : ℤ) - (Nat.log2 den : ℕ) := by
      push_cast
      ring
    rw [hexp, zpow_sub₀ two_ne_zero, zpow_natCast, zpow_natCast]
    exact div_lt_div₀ hnum hlog (by positivity) (by positivity)

lemma two_zpow_le_of_digitsBeforePoint {num den : Nat} (hnum : num ≠ 0) (hden : 0 < den) :
    (2 : ℚ) ^ (digitsBeforePoint num den - 1) ≤ num / den := by
  rw [digitsBeforePoint]
  split_ifs with hbelow
  · have hlog : (2 : ℚ) ^ Nat.log2 num ≤ num := by exact_mod_cast Nat.log2_self_le hnum
    have hlt : (den : ℚ) < 2 ^ (Nat.log2 den + 1) := by exact_mod_cast Nat.lt_log2_self
    have hpos : (0 : ℚ) < den := by exact_mod_cast hden
    have hexp : ((Nat.log2 num : ℤ) - Nat.log2 den - 1) =
        (Nat.log2 num : ℕ) - ((Nat.log2 den + 1 : ℕ) : ℤ) := by
      push_cast
      ring
    rw [hexp, zpow_sub₀ two_ne_zero, zpow_natCast, zpow_natCast]
    exact div_le_div₀ (by positivity) hlog hpos hlt.le
  · rw [add_sub_cancel_right]
    exact not_lt.mp (mt (ratioBelow_iff num hden _).mpr hbelow)

variable {format : BinaryFormat} {num den : Nat}

/-- The value nearest to a quotient is a quotient rounded to an integer, of the unit that suits
it. -/
lemma roundedToEven_ofRatio (format : BinaryFormat) (num : Nat) (hden : 0 < den) :
    RoundedToEven (multiples (2 ^ exponentFor format num den))
      (multiples (2 * 2 ^ exponentFor format num den)) (num / den)
      (ofRatio format num den).toRat := by
  set e := exponentFor format num den with he
  have hunit : (0 : ℚ) < 2 ^ e := by positivity
  have hden' : 0 < den * Nat.pow 2 e.toNat := Nat.mul_pos hden (Nat.two_pow_pos _)
  have hquotient : (num / den : ℚ) =
      ((num * Nat.pow 2 (-e).toNat : ℕ) : ℚ) / ((den * Nat.pow 2 e.toNat : ℕ) : ℚ) * 2 ^ e := by
    have hden : (den : ℚ) ≠ 0 := by exact_mod_cast hden.ne'
    rw [two_zpow_eq_div]
    push_cast
    field_simp
  have hrounded := roundedToEven_roundHalfEven (num * Nat.pow 2 (-e).toNat) hden' hunit
  rw [← hquotient] at hrounded
  rw [toRat, ofRatio, ← he]
  exact hrounded

/-- A value of the format with a smaller unit is farther away than the nearest value, since a power
of two, at which that unit ends, lies between it and the quotient. -/
lemma dist_lt_of_lt_exponentFor (hden : 0 < den) (hnum : num ≠ 0)
    (hprecision : 0 < format.precision) {mantissa e : Int}
    (hmantissa : mantissa < 2 ^ format.precision) (hmin : format.minExponent ≤ e)
    (he : e < exponentFor format num den) :
    |(ofRatio format num den).toRat - num / den| < |mantissa * 2 ^ e - (num / den : ℚ)| := by
  have hexp : exponentFor format num den = digitsBeforePoint num den - format.precision := by
    rw [exponentFor] at he ⊢
    omega
  set power : ℚ := 2 ^ (digitsBeforePoint num den - 1) with hpower
  have hle : power ≤ num / den := two_zpow_le_of_digitsBeforePoint hnum hden
  have hlt : (mantissa : ℚ) * 2 ^ e < power := by
    have hmantissa : (mantissa : ℚ) < 2 ^ format.precision := by exact_mod_cast hmantissa
    calc (mantissa : ℚ) * 2 ^ e < 2 ^ format.precision * 2 ^ e := by gcongr
      _ = 2 ^ (format.precision + e) := by rw [zpow_add₀ two_ne_zero, zpow_natCast]
      _ ≤ power := zpow_le_zpow_right₀ one_le_two (by omega)
  have hmem : power ∈ multiples (2 ^ exponentFor format num den) := by
    refine ⟨2 ^ (format.precision - 1), ?_⟩
    rw [Int.cast_pow, Int.cast_ofNat, ← zpow_natCast, ← zpow_add₀ two_ne_zero, hpower, hexp]
    congr 1
    omega
  calc |(ofRatio format num den).toRat - num / den| ≤ |power - num / den| :=
        (roundedToEven_ofRatio format num hden).dist_le _ hmem
    _ = num / den - power := by rw [abs_sub_comm, abs_of_nonneg (sub_nonneg.mpr hle)]
    _ < num / den - mantissa * 2 ^ e := sub_lt_sub_left hlt _
    _ ≤ |mantissa * 2 ^ e - (num / den : ℚ)| := by
      rw [abs_sub_comm]
      exact le_abs_self _

end Binary

end RoomDraw
