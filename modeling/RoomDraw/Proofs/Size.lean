import RoomDraw.Proofs.Generator
import RoomDraw.Proofs.Number.Nearest
import RoomDraw.Size.Pareto

/-!
# Sizes never exceed the number of users

A draw is cut down to the number of users although it is compared with the double nearest to that
number. What is drawn from a word is a double, so that a rounded draw below that double is not above
the number itself.
-/

namespace RoomDraw

/-! ### Doubles -/

/-- A magnitude with at most as many digits as a double has. -/
def Double.Fits : Double → Prop
  | .finite _ magnitude => magnitude.mantissa < 2 ^ 53
  | .infinite _ | .nan => True

/-- A word never stands for a number with more digits. -/
lemma Double.fits_ofBits (word : UInt64) : (Double.ofBits word).Fits := by
  have hfraction : word.toNat % hiddenDigit < hiddenDigit := Nat.mod_lt _ (by decide)
  have htwice : 2 * hiddenDigit = 2 ^ 53 := by decide
  simp only [ofBits]
  split_ifs <;> simp only [Fits] <;> omega

/-- A value of double precision is rounded to a number that double precision represents. -/
lemma isDouble_round {x : Binary} (hx : x.mantissa < 2 ^ 53) : IsDouble x.round := by
  rcases le_or_gt x.exponent 0 with he | he
  · refine ⟨x.round, 0, ?_, by simp⟩
    have hround : x.round ≤ 2 ^ 53 - 1 := by
      refine roundHalfUp_le (Nat.two_pow_pos _) ?_
      have hzero : x.exponent.toNat = 0 := by omega
      simp only [Binary.ratio, Nat.pow_eq, hzero, pow_zero, mul_one]
      exact (Nat.le_sub_one_of_lt hx).trans (Nat.le_mul_of_pos_right _ (Nat.two_pow_pos _))
    omega
  · refine ⟨x.mantissa, x.exponent.toNat, hx, ?_⟩
    have hzero : (-x.exponent).toNat = 0 := by omega
    simp only [Binary.round, Binary.ratio, hzero]
    exact roundHalfUp_one _

/-! ### Draws that are cut down -/

lemma cutDraw_le {draw : Double} (hdraw : draw.Fits) (users : Nat) :
    cutDraw draw users ≤ users := by
  unfold cutDraw
  split
  · rename_i magnitude
    split_ifs with hlt
    · exact le_of_lt_ofNat_double (isDouble_round hdraw) hlt
    · exact Nat.le_refl users
  · exact Nat.le_refl users
  all_goals exact Nat.zero_le users

lemma clampDraw_le {draw : Double} (hdraw : draw.Fits) {users : Nat} {size : RoomSize}
    (h : clampDraw draw users = some size) : size.value ≤ users := by
  rw [RoomSize.value_of_ofNat? h]
  exact cutDraw_le hdraw users

variable {σ : Type} [Generator σ]

lemma drawSizes_zero (users : Nat) (g : σ) : drawSizes users 0 g = ([], g) := rfl

/-- The first attempt gives a size or none, and the others go on from the generator it leaves. -/
lemma drawSizes_succ (users attempts : Nat) (g : σ) :
    drawSizes users (attempts + 1) g =
      ((drawSize users g).1.toList ++ (drawSizes users attempts (drawSize users g).2).1,
        (drawSizes users attempts (drawSize users g).2).2) := by
  rcases hfirst : drawSize users g with ⟨first, g₁⟩
  simp only [drawSizes, List.replicate_succ, List.mapM_cons, Draw.bind_apply, Draw.pure_apply,
    hfirst]
  cases first <;> rfl

/-- No size that is drawn exceeds the number of users. -/
lemma drawSizes_le (users attempts : Nat) (g : σ) :
    ∀ size ∈ (drawSizes users attempts g).1, size.value ≤ users := by
  induction attempts generalizing g with
  | zero => simp [drawSizes_zero]
  | succ attempts ih =>
    intro size hsize
    rw [drawSizes_succ] at hsize
    rcases List.mem_append.mp hsize with hfirst | hothers
    · exact clampDraw_le (Double.fits_ofBits _) (Option.mem_toList.mp hfirst)
    · exact ih _ size hothers

/-- An attempt gives one size at most. -/
lemma length_drawSizes_le (users attempts : Nat) (g : σ) :
    (drawSizes users attempts g).1.length ≤ attempts := by
  induction attempts generalizing g with
  | zero => simp [drawSizes_zero]
  | succ attempts ih =>
    have hfirst : (drawSize users g).1.toList.length ≤ 1 := by
      cases (drawSize users g).1 <;> simp
    have hothers := ih (drawSize users g).2
    rw [drawSizes_succ, List.length_append]
    omega

end RoomDraw
