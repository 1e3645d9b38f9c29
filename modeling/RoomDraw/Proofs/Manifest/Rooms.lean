import Mathlib.Data.List.Basic
import Mathlib.Tactic.Lemma
import RoomDraw.Manifest.Basic
import RoomDraw.Statistics

/-!
# Rooms and entries

The entry for a room with a member holds all of the room, and a room without members has none. So
entries and rooms are inverse to each other, but for rooms without members. Those count for the
number of rooms and for the least size, but not for the memberships of anybody.
-/

namespace RoomDraw

namespace Manifest

/-- The entries give back the rooms with a member, in order. -/
lemma rooms_ofRooms_eq_filter (rooms : List Room) :
    (ofRooms rooms).rooms = rooms.filter fun room => !room.members.isEmpty := by
  induction rooms with
  | nil => rfl
  | cons room rooms ih =>
    obtain ⟨name, members⟩ := room
    cases members with
    | nil => exact ih
    | cons creator users => exact congrArg (⟨name, creator :: users⟩ :: ·) ih

lemma rooms_ofRooms_eq_self {rooms : List Room} (h : ∀ room ∈ rooms, room.members ≠ []) :
    (ofRooms rooms).rooms = rooms := by
  rw [rooms_ofRooms_eq_filter, List.filter_eq_self]
  intro room hroom
  simpa using h room hroom

lemma length_rooms (m : Manifest) : m.rooms.length = m.creators.length := by
  rw [rooms, List.length_map]

/-- Every entry is that of its room, also where the creator is among its own users. -/
lemma ofRooms_rooms (m : Manifest) : ofRooms m.rooms = m := by
  have hentry : CreationEntry.ofRoom? ∘ CreationEntry.room = some :=
    funext CreationEntry.ofRoom?_room
  rw [ofRooms, rooms, List.filterMap_map, hentry, List.filterMap_some]

/-! ### Rooms without members -/

/-- Rooms without members add nothing to the members of all rooms. -/
lemma flatMap_members_rooms_ofRooms (rooms : List Room) :
    (ofRooms rooms).rooms.flatMap Room.members = rooms.flatMap Room.members := by
  rw [rooms_ofRooms_eq_filter]
  induction rooms with
  | nil => rfl
  | cons room rooms ih =>
    rw [List.flatMap_cons, ← ih, List.filter_cons]
    split_ifs with hmembers
    · rw [List.flatMap_cons]
    · have hnil : room.members = [] := by simpa using hmembers
      rw [hnil, List.nil_append]

lemma memberships_rooms_ofRooms (rooms : List Room) :
    Memberships.ofRooms (ofRooms rooms).rooms = Memberships.ofRooms rooms := by
  rw [Memberships.ofRooms, Memberships.ofRooms, flatMap_members_rooms_ofRooms]

/-- The rooms of a manifest are those it was made of that have a member, in order, and its entries
are those of its rooms. Nobody's memberships change, and so neither do the seats in no room and
those in many; where every room has a member, all statistics stay the same. -/
theorem entries_inverse_to_rooms :
    (∀ rooms : List Room,
      (ofRooms rooms).rooms = rooms.filter fun room => !room.members.isEmpty) ∧
    (∀ m : Manifest, ofRooms m.rooms = m) ∧
    ∀ rooms : List Room, Memberships.ofRooms (ofRooms rooms).rooms = Memberships.ofRooms rooms ∧
      ∀ roster threshold,
        let before := Statistics.summarize roster rooms threshold
        let after := Statistics.summarize roster (ofRooms rooms).rooms threshold
        after.roomless = before.roomless ∧ after.centurions = before.centurions ∧
          ((∀ room ∈ rooms, room.members ≠ []) → after = before) := by
  refine ⟨rooms_ofRooms_eq_filter, ofRooms_rooms, fun rooms => ⟨?_, ?_⟩⟩
  · exact memberships_rooms_ofRooms rooms
  · intro roster threshold before after
    refine ⟨?_, ?_, fun h => ?_⟩
    · simp only [before, after, Statistics.summarize, memberships_rooms_ofRooms]
    · simp only [before, after, Statistics.summarize, memberships_rooms_ofRooms]
    · simp only [before, after, rooms_ofRooms_eq_self h]

/-- A room without members is left out, and one with a single member, or with a member who creates
it and is invited too, is not. -/
theorem entries_inverse_to_rooms_of_three :
    let roster := Roster.ofList ["ann", "bob", "eve"]
    let lone : Room := ⟨"north", ["bob"]⟩
    let twice : Room := ⟨"south", ["ann", "bob", "ann"]⟩
    (ofRooms [lone, ⟨"empty", []⟩, twice]).rooms = [lone, twice] ∧
      (∀ room ∈ [lone, twice], room.members ≠ []) ∧
      Statistics.summarize roster (ofRooms [lone, twice]).rooms 1 =
        Statistics.summarize roster [lone, twice] 1 := by
  intro roster lone twice
  have hmembers : ∀ room ∈ [lone, twice], room.members ≠ [] := by decide
  refine ⟨?_, hmembers, ?_⟩
  · exact entries_inverse_to_rooms.1 [lone, ⟨"empty", []⟩, twice]
  · exact ((entries_inverse_to_rooms.2.2 [lone, twice]).2 roster 1).2.2 hmembers

end Manifest

end RoomDraw
