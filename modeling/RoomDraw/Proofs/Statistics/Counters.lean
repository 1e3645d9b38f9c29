import RoomDraw.Proofs.Membership.Conservation
import RoomDraw.Statistics

/-!
# The counters of statistics

The counters of a summary are taken over the same seats, each with a condition of its own on the
number of memberships. What one condition leaves out or includes of another one bounds the counters
by each other, over all thresholds.
-/

namespace RoomDraw

/-- No user has more memberships than all users together. -/
lemma Memberships.get_ofRooms_le_total (rooms : List Room) (user : String) :
    (ofRooms rooms).get user ≤ (ofRooms rooms).total := by
  rw [get_ofRooms, total_ofRooms]
  exact List.count_le_length.trans_eq List.length_flatMap

namespace Statistics

variable {roster : Roster} {m : Memberships} {p q : Nat → Bool}

/-! ### Seats with and without a property -/

lemma seatsWhere_le_of_imp (h : ∀ user, p (m.get user) = true → q (m.get user) = true) :
    seatsWhere roster m p ≤ seatsWhere roster m q :=
  Array.countP_mono_left fun user _ => h user

/-- Every seat has the property or does not have it. -/
lemma seatsWhere_add_not (roster : Roster) (m : Memberships) (p : Nat → Bool) :
    seatsWhere roster m p + seatsWhere roster m (!p ·) = roster.size := by
  rw [Roster.size, Array.size_eq_countP_add_countP (p := fun user => p (m.get user))]
  simp [seatsWhere]

/-- No seat is counted twice by properties that exclude each other. -/
lemma seatsWhere_add_le (h : ∀ n, p n = true → q n = false) :
    seatsWhere roster m p + seatsWhere roster m q ≤ roster.size := by
  have hnot : seatsWhere roster m q ≤ seatsWhere roster m (!p ·) := by
    refine seatsWhere_le_of_imp fun user hq => ?_
    cases hp : p (m.get user) with
    | false => rfl
    | true => rw [h _ hp] at hq; cases hq
  rw [← seatsWhere_add_not roster m p]
  exact Nat.add_le_add_left hnot _

lemma seatsWhere_eq_zero (h : ∀ user, p (m.get user) = false) : seatsWhere roster m p = 0 :=
  Array.countP_eq_zero.mpr fun user _ => by simp [h user]

/-! ### Summaries for all thresholds -/

/-- How the counters of summaries of the same rooms, one for each threshold, are bound to each
other. -/
structure Consistent (summary : Nat → Statistics) (roster : Roster) (rooms : List Room) :
    Prop where
  roomless_add_centurions : ∀ t, (summary t).roomless + (summary 0).centurions = roster.size
  centurions_antitone : ∀ t₁ t₂, t₁ ≤ t₂ → (summary t₂).centurions ≤ (summary t₁).centurions
  roomless_add_inAllRooms_le : ∀ t, (summary t).roomless + (summary t).inAllRooms ≤ roster.size
  inAllRooms_eq_zero : rooms = [] → ∀ t, (summary t).inAllRooms = 0
  inAllRooms_le_centurions : ∀ t < rooms.length, (summary t).inAllRooms ≤ (summary t).centurions
  centurions_eq_zero : ∀ t, (Memberships.ofRooms rooms).total ≤ t → (summary t).centurions = 0
  /-- The threshold decides about centurions only. -/
  eq_of_threshold : ∀ t₁ t₂, (summary t₁).roomCount = (summary t₂).roomCount ∧
    (summary t₁).sizes = (summary t₂).sizes ∧ (summary t₁).roomless = (summary t₂).roomless ∧
    (summary t₁).inAllRooms = (summary t₂).inAllRooms

/-- Nobody who is in no room is in every room, if there is one. -/
lemma roomless_add_inAllRooms_le (roster : Roster) (rooms : List Room) (t : Nat) :
    (summarize roster rooms t).roomless + (summarize roster rooms t).inAllRooms ≤ roster.size := by
  simp only [summarize]
  split
  · rw [← seatsWhere_add_not roster _ (· == 0)]
    exact Nat.add_le_add_left (Nat.zero_le _) _
  · rename_i hrooms
    have hlength : rooms.length ≠ 0 := by simpa [List.isEmpty_iff_length_eq_zero] using hrooms
    refine seatsWhere_add_le fun n hn => ?_
    rw [beq_iff_eq] at hn
    rw [beq_eq_false_iff_ne, hn]
    exact hlength.symm

/-- Whoever is in every room is in more rooms than any number below theirs. -/
lemma inAllRooms_le_centurions (roster : Roster) {rooms : List Room} {t : Nat}
    (ht : t < rooms.length) :
    (summarize roster rooms t).inAllRooms ≤ (summarize roster rooms t).centurions := by
  simp only [summarize]
  split
  · exact Nat.zero_le _
  · refine seatsWhere_le_of_imp fun user hall => ?_
    rw [beq_iff_eq] at hall
    rw [hall, decide_eq_true_eq]
    exact ht

/-- The counters of all summaries of rooms are consistent, whether or not members repeat and rooms
are empty. -/
theorem summarize_consistent (roster : Roster) (rooms : List Room) :
    Consistent (summarize roster rooms) roster rooms where
  roomless_add_centurions t := by
    have hpos : (fun n => decide (0 < n)) = fun n : Nat => !(n == 0) := by
      funext n
      cases n <;> rfl
    simp only [summarize, hpos]
    exact seatsWhere_add_not roster _ _
  centurions_antitone t₁ t₂ ht := by
    simp only [summarize]
    refine seatsWhere_le_of_imp fun user h => ?_
    rw [decide_eq_true_eq] at h ⊢
    exact ht.trans_lt h
  roomless_add_inAllRooms_le := roomless_add_inAllRooms_le roster rooms
  inAllRooms_eq_zero h t := by
    subst h
    rfl
  inAllRooms_le_centurions t ht := inAllRooms_le_centurions roster ht
  centurions_eq_zero t ht := by
    simp only [summarize]
    refine seatsWhere_eq_zero fun user => ?_
    have hle := Memberships.get_ofRooms_le_total rooms user
    rw [decide_eq_false_iff_not, Nat.not_lt]
    exact hle.trans ht
  eq_of_threshold _ _ := ⟨rfl, rfl, rfl, rfl⟩

/-- A member who occurs twice in a room and once in another has as many memberships as there are
rooms, though one of them is empty. -/
theorem summarize_consistent_of_three_rooms :
    let roster := Roster.ofList ["ann", "bob", "ann", "eve"]
    let rooms := [Room.numbered 0 ["ann", "ann", "bob"], .numbered 1 [], .numbered 2 ["ann"]]
    2 < rooms.length ∧ (Memberships.ofRooms rooms).total ≤ 4 ∧
      (summarize roster rooms 2).inAllRooms ≤ (summarize roster rooms 2).centurions ∧
      (summarize roster rooms 2).centurions ≤ (summarize roster rooms 1).centurions ∧
      (summarize roster rooms 1).roomless + (summarize roster rooms 0).centurions = 4 ∧
      (summarize roster rooms 4).centurions = 0 := by
  intro roster rooms
  have htotal : (Memberships.ofRooms rooms).total ≤ 4 := by
    rw [Memberships.total_ofRooms]
    decide
  have h := summarize_consistent roster rooms
  exact ⟨by decide, htotal, h.inAllRooms_le_centurions 2 (by decide),
    h.centurions_antitone 1 2 (by decide), h.roomless_add_centurions 1,
    h.centurions_eq_zero 4 htotal⟩

end Statistics

end RoomDraw
