import Mathlib.Data.List.Count
import Mathlib.Tactic.Lemma
import RoomDraw.Membership

/-!
# Memberships are counted

The memberships of a user in rooms are its occurrences among the members of the rooms. Where no room
has a member twice, they are the rooms that the user is in.
-/

namespace RoomDraw

namespace Memberships

/-- Every user that is added counts once, for itself. -/
lemma get_foldl_add (users : List String) (m : Memberships) (user : String) :
    (users.foldl add m).get user = m.get user + users.count user := by
  induction users generalizing m with
  | nil => simp
  | cons other users ih =>
    rw [List.foldl_cons, ih, get_add, List.count_cons, Nat.add_assoc, Nat.add_comm (ite _ _ _)]
    simp only [beq_iff_eq]

lemma get_ofRooms (rooms : List Room) (user : String) :
    (ofRooms rooms).get user = (rooms.flatMap Room.members).count user := by
  rw [ofRooms, get_foldl_add, get_empty, Nat.zero_add]

end Memberships

/-- The number of rooms that a user is a member of. -/
def roomsOf (rooms : List Room) (user : String) : Nat :=
  rooms.countP fun room => user ∈ room.members

lemma roomsOf_cons (room : Room) (rooms : List Room) (user : String) :
    roomsOf (room :: rooms) user = roomsOf rooms user + if user ∈ room.members then 1 else 0 := by
  simp only [roomsOf, List.countP_cons, decide_eq_true_eq]

lemma roomsOf_eq_zero {rooms : List Room} {user : String} :
    roomsOf rooms user = 0 ↔ ∀ room ∈ rooms, user ∉ room.members := by
  simp [roomsOf, List.countP_eq_zero]

lemma roomsOf_eq_length {rooms : List Room} {user : String} :
    roomsOf rooms user = rooms.length ↔ ∀ room ∈ rooms, user ∈ room.members := by
  simp [roomsOf, List.countP_eq_length]

namespace Memberships

/-- A room that has no member twice is one membership for each of its members. -/
lemma get_ofRooms_eq_roomsOf {rooms : List Room} (h : ∀ room ∈ rooms, room.members.Nodup)
    (user : String) : (ofRooms rooms).get user = roomsOf rooms user := by
  rw [get_ofRooms]
  induction rooms with
  | nil => rfl
  | cons room rooms ih =>
    have hroom : room.members.count user = if user ∈ room.members then 1 else 0 :=
      (h room List.mem_cons_self).count
    rw [List.flatMap_cons, List.count_append, hroom, roomsOf_cons, Nat.add_comm]
    exact congrArg (· + _) (ih fun other hother => h other (List.mem_cons_of_mem room hother))

end Memberships

end RoomDraw
