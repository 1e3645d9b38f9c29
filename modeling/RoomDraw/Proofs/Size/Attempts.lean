import Mathlib.Logic.Function.Iterate
import RoomDraw.Generator.Script
import RoomDraw.Proofs.Size.Clamping

/-!
# Attempts do not depend on what is accepted

Every attempt to draw a size uses up one word of 64 bits, whether a size comes of it or not. So the
sizes are made from the words that the generator yields, word by word, and neither the number of
users nor the sizes accepted so far change which words these are.
-/

namespace RoomDraw

variable {σ : Type} [Generator σ]

/-! ### Words -/

/-- The generator behind its next word. -/
def passWord (g : σ) : σ := (drawLongWord g).2

/-- The next words of a generator. -/
def nextWords : Nat → σ → List UInt64
  | 0, _ => []
  | count + 1, g => (drawLongWord g).1 :: nextWords count (passWord g)

lemma nextWords_add (count more : Nat) (g : σ) :
    nextWords (count + more) g = nextWords count g ++ nextWords more (passWord^[count] g) := by
  induction count generalizing g with
  | zero => simp [nextWords]
  | succ count ih =>
    rw [Nat.add_right_comm, nextWords, nextWords, ih, Function.iterate_succ_apply,
      List.cons_append]

lemma drawSize_eq (users : Nat) (g : σ) :
    drawSize users g = (clampDraw (paretoDraw (drawLongWord g).1) users, passWord g) := rfl

/-- The sizes are made of as many words as there are attempts, one word after the other. -/
lemma drawSizes_eq_nextWords (users attempts : Nat) (g : σ) :
    drawSizes users attempts g =
      ((nextWords attempts g).filterMap fun word => clampDraw (paretoDraw word) users,
        passWord^[attempts] g) := by
  induction attempts generalizing g with
  | zero => rfl
  | succ attempts ih =>
    rw [drawSizes_succ, drawSize_eq, ih, nextWords, Function.iterate_succ_apply]
    cases hsize : clampDraw (paretoDraw (drawLongWord g).1) users <;> simp [hsize]

/-! ### Numbers of users -/

/-- A draw stands for a number, which is cut down to the number of users. -/
lemma exists_cutDraw_eq_min (draw : Double) :
    ∃ rounded, ∀ users ≤ 2 ^ 53, cutDraw draw users = min rounded users := by
  cases hvalue : draw.toRat? with
  | some q => exact ⟨(roundAway q).toNat, fun users husers => cutDraw_of_toRat? hvalue husers⟩
  | none =>
    rcases draw with _ | negative | ⟨negative, magnitude⟩
    · exact ⟨0, fun users _ => (Nat.zero_min users).symm⟩
    · cases negative with
      -- an infinite draw gives everyone, as any number does that the users never exceed
      | false => exact ⟨2 ^ 53, fun users husers => (min_eq_right husers).symm⟩
      | true => exact ⟨0, fun users _ => (Nat.zero_min users).symm⟩
    · cases negative <;> cases hvalue

/-- A number that is cut down is enough for a room exactly if the number itself is. -/
lemma map_value_ofNat?_min (rounded : Nat) {users : Nat} (husers : 2 ≤ users) :
    (RoomSize.ofNat? (min rounded users)).map RoomSize.value =
      if 2 ≤ rounded then some (min rounded users) else none := by
  by_cases hrounded : 2 ≤ rounded
  · rw [RoomSize.ofNat?, dif_pos (le_min hrounded husers), if_pos hrounded]
    rfl
  · rw [RoomSize.ofNat?, dif_neg (fun h => hrounded (h.trans (min_le_left _ _))), if_neg hrounded]
    rfl

/-- Whether a draw is accepted does not depend on how many users there are, and among fewer users
its size is cut down to their number. -/
lemma map_value_clampDraw {few users : Nat} (hfew : 2 ≤ few) (hle : few ≤ users)
    (husers : users ≤ 2 ^ 53) (draw : Double) :
    (clampDraw draw few).map RoomSize.value =
      ((clampDraw draw users).map RoomSize.value).map (min · few) := by
  obtain ⟨rounded, hcut⟩ := exists_cutDraw_eq_min draw
  rw [clampDraw, clampDraw, hcut few (hle.trans husers), hcut users husers,
    map_value_ofNat?_min rounded hfew, map_value_ofNat?_min rounded (hfew.trans hle)]
  split
  · rw [Option.map_some, min_assoc, min_eq_right hle]
  · rfl

lemma clampDraw_of_lt_two {users : Nat} (husers : users < 2) (word : UInt64) :
    clampDraw (paretoDraw word) users = none := by
  rw [Option.eq_none_iff_forall_ne_some]
  intro size hsize
  have hle : size.value ≤ users := clampDraw_le (Double.fits_ofBits _) hsize
  have := size.two_le
  omega

/-- Each attempt uses up one word, and its size is a matter of that word and the number of users.
So attempts can be made in two parts; among fewer users the same draws are accepted, and their sizes
cut down; and a single user uses up the same words for nothing. -/
theorem drawSizes_word_by_word (users attempts : Nat) (g : σ) :
    drawSizes users attempts g =
      ((nextWords attempts g).filterMap fun word => clampDraw (paretoDraw word) users,
        passWord^[attempts] g) ∧
    (∀ more, drawSizes users (attempts + more) g =
      let (sizes, g₁) := drawSizes users attempts g
      let (others, g₂) := drawSizes users more g₁
      (sizes ++ others, g₂)) ∧
    (users ≤ 2 ^ 53 → ∀ few, 2 ≤ few → few ≤ users →
      (drawSizes few attempts g).1.map RoomSize.value =
        ((drawSizes users attempts g).1.map fun size => min size.value few) ∧
      (drawSizes few attempts g).2 = (drawSizes users attempts g).2) ∧
    ∀ few < 2, drawSizes few attempts g = ([], (drawSizes users attempts g).2) := by
  refine ⟨drawSizes_eq_nextWords users attempts g, ?_, ?_, ?_⟩
  · intro more
    simp only [drawSizes_eq_nextWords]
    rw [nextWords_add, List.filterMap_append, Nat.add_comm, Function.iterate_add_apply]
  · intro husers few hfew hle
    rw [drawSizes_eq_nextWords, drawSizes_eq_nextWords]
    constructor
    · rw [List.map_filterMap, List.map_filterMap]
      refine List.filterMap_congr fun word _ => ?_
      rw [map_value_clampDraw hfew hle husers, Option.map_map]
      rfl
    · rfl
  · intro few hfew
    simp only [drawSizes_eq_nextWords]
    rw [List.filterMap_eq_nil_iff.mpr fun word _ => clampDraw_of_lt_two hfew word]

/-- Of three words the second gives no size. The draw that seats all of five users seats both of
two. -/
theorem drawSizes_word_by_word_of_three :
    let g := Script.ofList [0, 0xFFFFFFFFFFFFFFFF, 0x4000000000000000]
    (drawSizes 5 3 g).1.map RoomSize.value = [5, 3] ∧ 5 ≤ 2 ^ 53 ∧
      (drawSizes 2 3 g).1.map RoomSize.value = [2, 2] ∧
      (drawSizes 2 3 g).2 = (drawSizes 5 3 g).2 := by
  intro g
  have hfive : (drawSizes 5 3 g).1.map RoomSize.value = [5, 3] := by decide +kernel
  have hmany : 5 ≤ 2 ^ 53 := by norm_num
  obtain ⟨hsizes, hleft⟩ :=
    (drawSizes_word_by_word 5 3 g).2.2.1 hmany 2 (by norm_num) (by norm_num)
  refine ⟨hfive, hmany, ?_, hleft⟩
  calc (drawSizes 2 3 g).1.map RoomSize.value
      = (drawSizes 5 3 g).1.map fun size => min size.value 2 := hsizes
    _ = ((drawSizes 5 3 g).1.map RoomSize.value).map (min · 2) := by rw [List.map_map]; rfl
    _ = [2, 2] := by rw [hfive]; rfl

end RoomDraw
