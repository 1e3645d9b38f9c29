import Mathlib.Algebra.Order.Floor.Ring
import Mathlib.Algebra.Order.Ring.Unbundled.Rat
import Mathlib.Data.Rat.Floor
import Mathlib.Tactic.FieldSimp
import Mathlib.Tactic.NormNum
import Mathlib.Tactic.Positivity
import RoomDraw.Proofs.Number.Nearest

/-!
# The numbers that floating-point values stand for

A finite value stands for a rational number. Comparing and rounding values are comparing and
rounding these numbers, and the double nearest to a natural number up to `2 ^ 53` stands for that
number itself.
-/

namespace RoomDraw

namespace Binary

/-- The number that a value stands for. -/
def toRat (x : Binary) : ℚ := x.mantissa * 2 ^ x.exponent

lemma ratio_snd_pos (x : Binary) : 0 < x.ratio.2 := Nat.two_pow_pos _

lemma toRat_eq_div (x : Binary) : x.toRat = x.ratio.1 / x.ratio.2 := by
  rcases le_total 0 x.exponent with he | he
  · obtain ⟨k, hk⟩ := Int.eq_ofNat_of_zero_le he
    simp [toRat, ratio, hk]
  · obtain ⟨k, hk⟩ := Int.eq_ofNat_of_zero_le (Int.neg_nonneg_of_nonpos he)
    have hexp : x.exponent = -k := by omega
    simp [toRat, ratio, hexp, div_eq_mul_inv]

lemma toRat_nonneg (x : Binary) : 0 ≤ x.toRat := by
  rw [toRat_eq_div]
  positivity

@[simp] lemma toRat_natCast (n : Nat) : (⟨n, 0⟩ : Binary).toRat = n := by simp [toRat]

lemma lt_iff_toRat_lt (x y : Binary) : x.lt y = true ↔ x.toRat < y.toRat := by
  have hx : (0 : ℚ) < x.ratio.2 := mod_cast x.ratio_snd_pos
  have hy : (0 : ℚ) < y.ratio.2 := mod_cast y.ratio_snd_pos
  rw [toRat_eq_div, toRat_eq_div, div_lt_div_iff₀ hx hy, lt, decide_eq_true_eq]
  norm_cast

end Binary

/-! ### Rounding -/

lemma roundHalfUp_eq_floor (num : Nat) {den : Nat} (hden : 0 < den) :
    (roundHalfUp num den : ℤ) = ⌊(num / den : ℚ) + 1 / 2⌋ := by
  have hhalf : (num / den : ℚ) + 1 / 2 = ((2 * num + den : ℕ) : ℚ) / ((2 * den : ℕ) : ℚ) := by
    have hden : (den : ℚ) ≠ 0 := by exact_mod_cast hden.ne'
    push_cast
    field_simp
  rw [hhalf, Rat.floor_natCast_div_natCast, roundHalfUp]
  norm_cast

/-- The integer nearest to a number; of two equally near, the one farther from zero. -/
def roundAway (q : ℚ) : ℤ := if 0 ≤ q then ⌊q + 1 / 2⌋ else ⌈q - 1 / 2⌉

lemma roundAway_toRat (x : Binary) : roundAway x.toRat = roundHalfUp x.ratio.1 x.ratio.2 := by
  rw [roundAway, if_pos x.toRat_nonneg, roundHalfUp_eq_floor _ x.ratio_snd_pos, Binary.toRat_eq_div]

lemma roundAway_nonpos {q : ℚ} (hq : q ≤ 0) : roundAway q ≤ 0 := by
  rw [roundAway]
  split_ifs with hzero
  · obtain rfl : q = 0 := le_antisymm hq hzero
    norm_num
  · exact Int.ceil_le.mpr (by push_cast; linarith)

/-! ### Doubles -/

/-- The number that a double stands for, if it is finite. -/
def Double.toRat? : Double → Option ℚ
  | .finite false magnitude => some magnitude.toRat
  | .finite true magnitude => some (-magnitude.toRat)
  | .infinite _ | .nan => none

/-- Up to `2 ^ 53` the nearest double is the number itself. -/
lemma toRat_ofNat_double {n : Nat} (hn : n ≤ 2 ^ 53) : (Binary.ofNat .double n).toRat = n := by
  by_cases hzero : n = 0
  · subst hzero
    simp [Binary.toRat, Binary.ofNat, Binary.ofRatio, roundHalfEven]
  rw [ofNat_double hzero]
  rcases le_or_gt (Nat.log2 n) 52 with hlog | hlog
  · have hpos : ((Nat.log2 n : Int) - 52).toNat = 0 := by omega
    have hneg : (-((Nat.log2 n : Int) - 52)).toNat = 52 - Nat.log2 n := by omega
    have hunit : Nat.log2 n - 52 = 0 := by omega
    simp only [Binary.toRat_eq_div, Binary.ratio, Nat.pow_eq, hpos, hneg, hunit, pow_zero, mul_one,
      roundHalfEven_one]
    push_cast
    field_simp
  · -- only `2 ^ 53` has one more digit
    have hle := Nat.log2_self_le hzero
    have hge : 2 ^ 53 ≤ 2 ^ Nat.log2 n := Nat.pow_le_pow_right (by norm_num) hlog
    obtain rfl : n = 2 ^ 53 := by omega
    rw [show Nat.log2 (2 ^ 53) = 53 from Nat.log2_two_pow]
    norm_num [Binary.toRat, roundHalfEven]

end RoomDraw
