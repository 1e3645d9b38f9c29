import RoomDraw.Proofs.Number.Value
import RoomDraw.Proofs.Size

/-!
# The size that a draw gives

A size is never below two nor above the number of users, however large that number is. Up to
`2 ^ 53` users it is the draw itself, rounded and cut down to the number of users.
-/

namespace RoomDraw

/-- Among users that double precision can count, comparing with the nearest double is comparing
with their number. -/
lemma natCast_lt_ofNat_double_iff {users : Nat} (husers : users ≤ 2 ^ 53) (n : Nat) :
    (⟨n, 0⟩ : Binary).lt (.ofNat .double users) = true ↔ n < users := by
  rw [Binary.lt_iff_toRat_lt, Binary.toRat_natCast, toRat_ofNat_double husers, Nat.cast_lt]

/-- A finite draw is rounded and cut down to the number of users. -/
lemma cutDraw_of_toRat? {draw : Double} {q : ℚ} (hq : draw.toRat? = some q) {users : Nat}
    (husers : users ≤ 2 ^ 53) : cutDraw draw users = min (roundAway q).toNat users := by
  rcases draw with _ | _ | ⟨negative, magnitude⟩
  · cases hq
  · cases hq
  cases negative with
  | false =>
    obtain rfl : magnitude.toRat = q := Option.some.inj hq
    have hround : (roundAway magnitude.toRat).toNat = magnitude.round := by
      rw [roundAway_toRat, Int.toNat_natCast]
      rfl
    rw [hround, cutDraw]
    by_cases hlt : magnitude.round < users
    · rw [if_pos ((natCast_lt_ofNat_double_iff husers _).mpr hlt), min_eq_left hlt.le]
    · rw [if_neg (mt (natCast_lt_ofNat_double_iff husers _).mp hlt),
        min_eq_right (Nat.not_lt.mp hlt)]
  | true =>
    obtain rfl : -magnitude.toRat = q := Option.some.inj hq
    have hround := roundAway_nonpos (neg_nonpos.mpr magnitude.toRat_nonneg)
    rw [Int.toNat_of_nonpos hround, Nat.zero_min]
    rfl

/-- No draw leaves the sizes from two to the number of users, whatever that number is. Up to
`2 ^ 53` users, a draw gives what its rounding gives, cut down to their number. -/
theorem clampDraw_within_bounds (word : UInt64) (users : Nat) :
    (∀ size, clampDraw (.ofBits word) users = some size → 2 ≤ size.value ∧ size.value ≤ users) ∧
    (users ≤ 2 ^ 53 →
      (∀ q, (Double.ofBits word).toRat? = some q →
        clampDraw (.ofBits word) users = RoomSize.ofNat? (min (roundAway q).toNat users)) ∧
      (Double.ofBits word = .infinite false →
        clampDraw (.ofBits word) users = RoomSize.ofNat? users)) ∧
    ∀ {σ : Type} [Generator σ] (attempts : Nat) (g : σ),
      (drawSizes users attempts g).1.length ≤ attempts ∧
      ∀ size ∈ (drawSizes users attempts g).1, 2 ≤ size.value ∧ size.value ≤ users := by
  refine ⟨?_, fun husers => ⟨?_, ?_⟩, fun {σ} _ attempts g => ⟨?_, ?_⟩⟩
  · intro size hsize
    exact ⟨size.two_le, clampDraw_le (Double.fits_ofBits word) hsize⟩
  · intro q hq
    rw [clampDraw, cutDraw_of_toRat? hq husers]
  · intro hinfinite
    rw [hinfinite]
    rfl
  · exact length_drawSizes_le users attempts g
  · intro size hsize
    exact ⟨size.two_le, drawSizes_le users attempts g size hsize⟩

/-- A draw of two and a half is rounded up. An infinite draw stays within more users than double
precision can count. -/
theorem clampDraw_within_bounds_of_half :
    clampDraw (.ofBits 0x4004000000000000) 10 = some ⟨3, by decide⟩ ∧
    ∀ size, clampDraw (.ofBits 0x7FF0000000000000) (2 ^ 64 - 1) = some size →
      2 ≤ size.value ∧ size.value ≤ 2 ^ 64 - 1 := by
  have hvalue : (Double.ofBits 0x4004000000000000).toRat? = some (5 / 2) := by
    have hbits : Double.ofBits 0x4004000000000000 = .finite false ⟨5629499534213120, -51⟩ := by
      decide
    rw [hbits, Double.toRat?, Binary.toRat]
    norm_num
  have hround : roundAway (5 / 2) = 3 := by norm_num [roundAway]
  refine ⟨?_, (clampDraw_within_bounds 0x7FF0000000000000 (2 ^ 64 - 1)).1⟩
  rw [((clampDraw_within_bounds 0x4004000000000000 10).2.1 (by norm_num)).1 _ hvalue,
    hround]
  rfl

end RoomDraw
