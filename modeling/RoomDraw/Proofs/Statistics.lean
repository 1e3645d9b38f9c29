import RoomDraw.Proofs.Membership
import RoomDraw.Statistics

/-!
# What statistics mean

Memberships are counted without looking at the rooms one by one. Where no room has a member twice,
the three counters of a summary are nevertheless the numbers of seats whose users are in no room, in
every room, and in more rooms than the threshold.
-/

namespace RoomDraw

/-! ### Sizes -/

/-- There is a range of sizes exactly if there is a room. -/
lemma SizeRange.ofRooms_eq_none {rooms : List Room} : ofRooms rooms = none ↔ rooms = [] := by
  cases rooms with
  | nil => simp [ofRooms]
  | cons room rooms => simp [ofRooms, List.max?_cons, List.min?_cons]

lemma SizeRange.ofRooms_eq_some {rooms : List Room} {range : SizeRange}
    (h : ofRooms rooms = some range) :
    (rooms.map Room.size).max? = some range.max ∧ (rooms.map Room.size).min? = some range.min := by
  simp only [ofRooms] at h
  split at h
  · rename_i max min hmax hmin
    obtain rfl := Option.some.inj h
    exact ⟨hmax, hmin⟩
  · cases h

/-- The greatest size is that of some room, and no room is larger. -/
lemma SizeRange.isGreatest_max {rooms : List Room} {range : SizeRange}
    (h : ofRooms rooms = some range) :
    (∃ room ∈ rooms, room.size = range.max) ∧ ∀ room ∈ rooms, room.size ≤ range.max := by
  obtain ⟨hmem, hle⟩ := List.max?_eq_some_iff.mp (ofRooms_eq_some h).1
  exact ⟨List.mem_map.mp hmem, fun room hroom => hle _ (List.mem_map_of_mem hroom)⟩

/-- The least size is that of some room, and no room is smaller. -/
lemma SizeRange.isLeast_min {rooms : List Room} {range : SizeRange}
    (h : ofRooms rooms = some range) :
    (∃ room ∈ rooms, room.size = range.min) ∧ ∀ room ∈ rooms, range.min ≤ room.size := by
  obtain ⟨hmem, hle⟩ := List.min?_eq_some_iff.mp (ofRooms_eq_some h).2
  exact ⟨List.mem_map.mp hmem, fun room hroom => hle _ (List.mem_map_of_mem hroom)⟩

/-! ### Seats -/

namespace Statistics

/-- What statistics say about the rooms of a roster. Every seat is looked at on its own. -/
structure Describes (s : Statistics) (roster : Roster) (rooms : List Room) (threshold : Nat) :
    Prop where
  roomCount_eq : s.roomCount = rooms.length
  roomless_eq : s.roomless = roster.users.countP fun user => ∀ room ∈ rooms, user ∉ room.members
  inAllRooms_eq : s.inAllRooms =
    if rooms = [] then 0 else roster.users.countP fun user => ∀ room ∈ rooms, user ∈ room.members
  centurions_eq : s.centurions = roster.users.countP fun user => threshold < roomsOf rooms user
  sizes_eq_none : s.sizes = none ↔ rooms = []
  isGreatest_max : ∀ range, s.sizes = some range →
    (∃ room ∈ rooms, room.size = range.max) ∧ ∀ room ∈ rooms, room.size ≤ range.max
  isLeast_min : ∀ range, s.sizes = some range →
    (∃ room ∈ rooms, room.size = range.min) ∧ ∀ room ∈ rooms, range.min ≤ room.size

/-- Seats are counted by the rooms of their users, where no room has a member twice. -/
lemma seatsWhere_eq_countP {rooms : List Room} (h : ∀ room ∈ rooms, room.members.Nodup)
    (roster : Roster) {property : Nat → Bool} {P : String → Prop} [DecidablePred P]
    (hP : ∀ user, property (roomsOf rooms user) = true ↔ P user) :
    seatsWhere roster (.ofRooms rooms) property = roster.users.countP fun user => P user := by
  refine Array.countP_congr fun user _ => ?_
  rw [Memberships.get_ofRooms_eq_roomsOf h, hP, decide_eq_true_eq]

/-- Where no room lists a user twice, the summary counts, seat by seat, the users who are a member
of no room, of every room, and of more rooms than the threshold, and it has the bounds of the
sizes. -/
theorem summarize_describes {rooms : List Room} (h : ∀ room ∈ rooms, room.members.Nodup)
    (roster : Roster) (threshold : Nat) :
    (summarize roster rooms threshold).Describes roster rooms threshold := by
  refine ⟨rfl, ?_, ?_, ?_, SizeRange.ofRooms_eq_none, fun _ => SizeRange.isGreatest_max,
    fun _ => SizeRange.isLeast_min⟩
  · simp only [summarize]
    exact seatsWhere_eq_countP h roster fun user => by rw [beq_iff_eq, roomsOf_eq_zero]
  · simp only [summarize, List.isEmpty_iff]
    congr 1
    exact seatsWhere_eq_countP h roster fun user => by rw [beq_iff_eq, roomsOf_eq_length]
  · simp only [summarize]
    exact seatsWhere_eq_countP h roster fun user => decide_eq_true_iff

/-- A user with two seats is counted twice, among those in every room as among those in many. -/
theorem summarize_describes_of_two_rooms :
    let roster := Roster.ofList ["ann", "bob", "ann", "eve"]
    let rooms := [Room.numbered 0 ["ann", "bob"], .numbered 1 ["cid", "ann", "dan"]]
    (∀ room ∈ rooms, room.members.Nodup) ∧
      (summarize roster rooms 1).roomless = 1 ∧ (summarize roster rooms 1).inAllRooms = 2 ∧
      (summarize roster rooms 1).centurions = 2 ∧ (summarize roster rooms 0).centurions = 3 ∧
      ∃ range, (summarize roster rooms 1).sizes = some range := by
  intro roster rooms
  have hnodup : ∀ room ∈ rooms, room.members.Nodup := by decide
  have h := summarize_describes hnodup roster
  refine ⟨hnodup, ?_, ?_, ?_, ?_, ?_⟩
  · rw [(h 1).roomless_eq]
    decide
  · rw [(h 1).inAllRooms_eq]
    decide
  · rw [(h 1).centurions_eq]
    decide
  · rw [(h 0).centurions_eq]
    decide
  · rw [← Option.isSome_iff_exists, ← Option.ne_none_iff_isSome, Ne, (h 1).sizes_eq_none]
    decide

end Statistics

end RoomDraw
