import Mathlib.Data.List.Forall2
import Mathlib.Tactic.Linarith
import RoomDraw.Proofs.Generator
import RoomDraw.Seat.Index

/-!
# Index draws stay below their bounds

Both ways to draw an index give one below the bound, from every generator: also where the carry of a
second word raises the index, and whatever the bound is. A sequence of draws is therefore within its
bounds, place by place.
-/

namespace RoomDraw

variable {σ : Type} [Generator σ]

/-! ### One draw -/

lemma toNat_lt_wordCount (word : UInt32) : word.toNat < wordCount := word.toNat_lt

/-- The high part of a word times a bound is below the bound. -/
lemma high_lt_bound {bound : Nat} (hbound : 0 < bound) (word : UInt32) :
    word.toNat * bound / wordCount < bound := by
  rw [Nat.div_lt_iff_lt_mul (by decide), Nat.mul_comm bound]
  exact Nat.mul_lt_mul_of_pos_right (toNat_lt_wordCount word) hbound

/-- The carry of a second word never reaches the bound: the product of the first word and the bound,
and the high part of the second product, are together less than the bound times a whole word. -/
lemma carried_lt_bound {bound : Nat} (hbound : 0 < bound) (word more : UInt32)
    (hcarry : wordCount ≤ word.toNat * bound % wordCount + more.toNat * bound / wordCount) :
    word.toNat * bound / wordCount + 1 < bound := by
  have hword : (word.toNat + 1) * bound ≤ wordCount * bound :=
    Nat.mul_le_mul_right bound (toNat_lt_wordCount word)
  have hmore : more.toNat * bound / wordCount < bound := high_lt_bound hbound more
  have hparts := Nat.div_add_mod (word.toNat * bound) wordCount
  have hlow : word.toNat * bound % wordCount < wordCount := Nat.mod_lt _ (by decide)
  rw [Nat.add_mul, Nat.one_mul] at hword
  have : wordCount * (word.toNat * bound / wordCount + 1) < wordCount * bound := by
    rw [Nat.mul_add, Nat.mul_one]
    omega
  exact Nat.lt_of_mul_lt_mul_left this

/-- The corrected draw gives an index below the bound. -/
lemma indexBelow_lt {bound : Nat} (hbound : 0 < bound) (g : σ) :
    (indexBelow bound g).1 < bound := by
  rcases hword : drawWord g with ⟨word, g₁⟩
  simp only [indexBelow, Draw.bind_apply, hword]
  split_ifs with hlow
  · rcases hmore : drawWord g₁ with ⟨more, g₂⟩
    simp only [Draw.bind_apply, hmore, Draw.pure_apply]
    split_ifs with hcarry
    · exact carried_lt_bound hbound word more hcarry
    · exact high_lt_bound hbound word
  · exact high_lt_bound hbound word

/-- A word that is free of bias gives an index below the bound. -/
lemma evenIndex?_lt {bound index : Nat} {g g' : σ} (h : evenIndex? bound g = (some index, g')) :
    index < bound := by
  rcases hword : drawWord g with ⟨word, g₁⟩
  simp only [evenIndex?, Draw.bind_apply, hword, Draw.pure_apply] at h
  have hindex := congrArg Prod.fst h
  dsimp only at hindex
  split_ifs at hindex with hlow
  have hbound : 0 < bound := by
    by_contra hzero
    obtain rfl : bound = 0 := by omega
    simp [wordCount] at hlow
  rw [← Option.some.inj hindex]
  exact high_lt_bound hbound word

/-- The draw by rejection gives an index below the bound, if it ends. -/
lemma evenIndexBelow_lt {bound : Nat} {g : σ} {r : Nat × σ}
    (h : evenIndexBelow bound g = some r) : r.1 < bound := by
  have hr := untilSome_eq_some_iff.mp h
  clear h
  induction hr with
  | last hdraw => exact evenIndex?_lt (Option.some.inj hdraw)
  | again _ _ ih => exact ih

/-! ### Sequences of draws -/

/-- As many draws as bounds, each below its own. -/
def Within (bounds draws : List Nat) : Prop :=
  List.Forall₂ (fun bound draw => draw < bound) bounds draws

@[simp] lemma within_nil {draws : List Nat} : Within [] draws ↔ draws = [] :=
  List.forall₂_nil_left_iff

@[simp] lemma within_cons {bound : Nat} {bounds draws : List Nat} :
    Within (bound :: bounds) draws ↔
      ∃ drawn others, drawn < bound ∧ Within bounds others ∧ draws = drawn :: others :=
  List.forall₂_cons_left_iff

lemma Within.length_eq {bounds draws : List Nat} (h : Within bounds draws) :
    draws.length = bounds.length :=
  (List.Forall₂.length_eq h).symm

/-- Every draw is below the bound at its place. -/
lemma Within.getElem_lt {bounds draws : List Nat} (h : Within bounds draws) {k : Nat}
    (hk : k < draws.length) (hbound : k < bounds.length) : draws[k] < bounds[k] :=
  (List.forall₂_iff_get.mp h).2 k hbound hk

/-- A sequence of corrected draws is within its bounds. -/
lemma within_mapM_indexBelow {bounds : List Nat} (hpos : ∀ bound ∈ bounds, 0 < bound) (g : σ) :
    Within bounds (bounds.mapM (m := StateM σ) indexBelow g).1 := by
  induction bounds generalizing g with
  | nil => simp
  | cons bound bounds ih =>
    simp only [List.mapM_cons, Draw.bind_apply, Draw.pure_apply, within_cons]
    refine ⟨_, _, indexBelow_lt (hpos bound List.mem_cons_self) g, ?_, rfl⟩
    exact ih (fun b hb => hpos b (List.mem_cons_of_mem _ hb)) _

end RoomDraw
