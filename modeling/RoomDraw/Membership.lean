import Std.Data.HashMap
import RoomDraw.Room

/-!
# Memberships

How many times each user occurs among the members of rooms, as creator or invitee.
-/

namespace RoomDraw

/-- The number of memberships of every user that has one. -/
structure Memberships where
  counts : Std.HashMap String Nat

namespace Memberships

def empty : Memberships := ⟨∅⟩

def add (m : Memberships) (user : String) : Memberships :=
  ⟨m.counts.insert user (m.counts.getD user 0 + 1)⟩

/-- The memberships in the rooms: one for each occurrence of a user among the members of a room. -/
def ofRooms (rooms : List Room) : Memberships := (rooms.flatMap Room.members).foldl add empty

def get (m : Memberships) (user : String) : Nat := m.counts.getD user 0

/-- The memberships of all users together. -/
def total (m : Memberships) : Nat := m.counts.values.foldr (· + ·) 0

@[simp] theorem get_empty (user : String) : empty.get user = 0 := by simp [empty, get]

theorem get_add (m : Memberships) (user other : String) :
    (m.add user).get other = m.get other + if user = other then 1 else 0 := by
  by_cases h : user = other <;> simp [add, get, Std.HashMap.getD_insert, h]

end Memberships

end RoomDraw
