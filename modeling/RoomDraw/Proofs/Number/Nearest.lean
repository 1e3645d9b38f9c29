import Mathlib.Tactic.Linarith
import Mathlib.Tactic.Ring
import RoomDraw.Number.Double

/-!
# Rounding never crosses a value of the format

Rounding a quotient stays on the side of an integer on which the quotient is. It follows that a
natural number that double precision represents, and that is below the double nearest to another
number, does not exceed that other number.
-/

namespace RoomDraw

/-! ### Quotients -/

lemma roundHalfEven_le {num den k : Nat} (hden : 0 < den) (h : num ≤ k * den) :
    roundHalfEven num den ≤ k := by
  have hq : num / den ≤ k := Nat.div_le_of_le_mul (by rwa [Nat.mul_comm])
  have hparts := Nat.div_add_mod num den
  simp only [roundHalfEven]
  by_cases hrem : num % den = 0
  · rw [if_pos (by omega)]
    exact hq
  · have hlt : num / den < k := by
      refine lt_of_le_of_ne hq fun heq => hrem ?_
      rw [heq, Nat.mul_comm] at hparts
      omega
    split_ifs <;> omega

lemma le_roundHalfEven {num den k : Nat} (hden : 0 < den) (h : k * den ≤ num) :
    k ≤ roundHalfEven num den := by
  have hq : k ≤ num / den := (Nat.le_div_iff_mul_le hden).mpr h
  simp only [roundHalfEven]
  split_ifs <;> omega

lemma roundHalfEven_one (num : Nat) : roundHalfEven num 1 = num :=
  Nat.le_antisymm (roundHalfEven_le Nat.one_pos (by simp)) (le_roundHalfEven Nat.one_pos (by simp))

lemma roundHalfUp_le {num den k : Nat} (hden : 0 < den) (h : num ≤ k * den) :
    roundHalfUp num den ≤ k := by
  rw [roundHalfUp, Nat.div_le_iff_le_mul_add_pred (by omega)]
  have : 2 * num ≤ 2 * den * k := by nlinarith
  omega

lemma roundHalfUp_one (num : Nat) : roundHalfUp num 1 = num := by
  rw [roundHalfUp]
  omega

/-! ### Natural numbers in double precision -/

/-- A natural number that double precision represents. -/
def IsDouble (n : Nat) : Prop :=
  ∃ mantissa exponent, mantissa < 2 ^ 53 ∧ n = mantissa * 2 ^ exponent

lemma digitsBeforePoint_one {n : Nat} (hn : n ≠ 0) :
    Binary.digitsBeforePoint n 1 = Nat.log2 n + 1 := by
  have hle := Nat.log2_self_le hn
  have hbelow : Binary.ratioBelow n 1 (Nat.log2 n : Int) = false := by
    simp [Binary.ratioBelow, hle]
  have hone : Nat.log2 1 = 0 := by decide
  rw [Binary.digitsBeforePoint, hone, Int.natCast_zero, Int.sub_zero, hbelow]
  rfl

/-- The double nearest to a positive number has its leading digit in place of the number's. -/
lemma ofNat_double {n : Nat} (hn : n ≠ 0) :
    Binary.ofNat .double n =
      ⟨roundHalfEven (n * 2 ^ (52 - Nat.log2 n)) (2 ^ (Nat.log2 n - 52)),
        (Nat.log2 n : Int) - 52⟩ := by
  have hexp : Binary.exponentFor .double n 1 = (Nat.log2 n : Int) - 52 := by
    rw [Binary.exponentFor, digitsBeforePoint_one hn]
    simp only [BinaryFormat.double]
    omega
  have hneg : (-((Nat.log2 n : Int) - 52)).toNat = 52 - Nat.log2 n := by omega
  have hpos : ((Nat.log2 n : Int) - 52).toNat = Nat.log2 n - 52 := by omega
  rw [Binary.ofNat, Binary.ofRatio, hexp, hneg, hpos, Nat.one_mul, Nat.pow_eq, Nat.pow_eq]

/-- A number below the nearest double of another does not exceed the other, if double precision
represents it. -/
lemma le_of_lt_ofNat_double {r n : Nat} (hr : IsDouble r)
    (h : (⟨r, 0⟩ : Binary).lt (.ofNat .double n) = true) : r ≤ n := by
  by_contra hgt
  have hgt : n < r := by omega
  by_cases hn : n = 0
  · subst hn
    simp [Binary.lt, Binary.ratio, Binary.ofNat, Binary.ofRatio, roundHalfEven] at h
  rw [ofNat_double hn] at h
  simp only [Binary.lt, Binary.ratio, Nat.pow_eq, decide_eq_true_eq, neg_zero, Int.toNat_zero,
    pow_zero, mul_one] at h
  obtain ⟨m, e, hm, rfl⟩ := hr
  rcases le_or_gt (Nat.log2 n) 52 with hlog | hlog
  · -- the double is the number itself
    have hpos : ((Nat.log2 n : Int) - 52).toNat = 0 := by omega
    have hneg : (-((Nat.log2 n : Int) - 52)).toNat = 52 - Nat.log2 n := by omega
    have hzero : Nat.log2 n - 52 = 0 := by omega
    simp only [hpos, hneg, hzero, pow_zero, mul_one, roundHalfEven_one] at h
    exact absurd (Nat.lt_of_mul_lt_mul_right h) (Nat.not_lt.mpr hgt.le)
  · -- both are multiples of the unit in the last place, and rounding does not cross the first
    have hpos : ((Nat.log2 n : Int) - 52).toNat = Nat.log2 n - 52 := by omega
    have hneg : (-((Nat.log2 n : Int) - 52)).toNat = 0 := by omega
    have hzero : 52 - Nat.log2 n = 0 := by omega
    simp only [hpos, hneg, hzero, pow_zero, mul_one] at h
    have hunit : Nat.log2 n - 52 ≤ e := by
      by_contra he
      have hbelow : m * 2 ^ e < 2 ^ Nat.log2 n := by
        calc m * 2 ^ e < 2 ^ 53 * 2 ^ e := Nat.mul_lt_mul_of_pos_right hm (Nat.two_pow_pos e)
          _ = 2 ^ (53 + e) := (pow_add 2 53 e).symm
          _ ≤ 2 ^ Nat.log2 n := Nat.pow_le_pow_right (by norm_num) (by omega)
      have := Nat.log2_self_le hn
      omega
    have hr : m * 2 ^ e = m * 2 ^ (e - (Nat.log2 n - 52)) * 2 ^ (Nat.log2 n - 52) := by
      rw [mul_assoc, ← pow_add, Nat.sub_add_cancel hunit]
    have hround := roundHalfEven_le (Nat.two_pow_pos (Nat.log2 n - 52)) (hr ▸ hgt.le)
    have := Nat.mul_le_mul_right (2 ^ (Nat.log2 n - 52)) hround
    omega

end RoomDraw
