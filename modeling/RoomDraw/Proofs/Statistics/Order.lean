import Mathlib.Algebra.BigOperators.Group.List.Basic
import Mathlib.Data.List.Forall2
import RoomDraw.Proofs.Membership
import RoomDraw.Statistics

/-!
# Statistics ignore order

A summary depends on how many members each room has and on how often each user is a member of some
room. Neither depends on the order of the rooms, on the order of the members inside a room or on the
names of the rooms, and the order of the seats of the roster is of no matter either.
-/

namespace RoomDraw

/-- Two lists of rooms that can be made of each other by putting the rooms in another order, by
putting the members inside rooms in another order, and by giving rooms other names, any number of
times. -/
inductive Rearranged : List Room → List Room → Prop where
  | rooms {rooms others : List Room} (h : rooms.Perm others) : Rearranged rooms others
  | members {rooms others : List Room}
      (h : List.Forall₂ (fun room other => room.name = other.name ∧
        room.members.Perm other.members) rooms others) : Rearranged rooms others
  | names {rooms others : List Room} (h : rooms.map Room.members = others.map Room.members) :
      Rearranged rooms others
  | trans {rooms between others : List Room} (h : Rearranged rooms between)
      (h' : Rearranged between others) : Rearranged rooms others

namespace Rearranged

variable {rooms others : List Room}

/-- The members of all rooms together are the same. -/
lemma flatMap_members (h : Rearranged rooms others) :
    (rooms.flatMap Room.members).Perm (others.flatMap Room.members) := by
  induction h with
  | rooms h => exact h.flatMap_right Room.members
  | members h =>
    induction h with
    | nil => rfl
    | cons h _ ih => exact h.2.append ih
  | names h => rw [List.flatMap_def, h, ← List.flatMap_def]
  | trans _ _ ih ih' => exact ih.trans ih'

/-- The sizes of the rooms are the same. -/
lemma map_size (h : Rearranged rooms others) :
    (rooms.map Room.size).Perm (others.map Room.size) := by
  induction h with
  | rooms h => exact h.map Room.size
  | members h =>
    induction h with
    | nil => rfl
    | cons h _ ih =>
      rw [List.map_cons, List.map_cons, Room.size, h.2.length_eq]
      exact ih.cons _
  | @names rooms others h =>
    have hsizes (rooms : List Room) :
        rooms.map Room.size = (rooms.map Room.members).map List.length := by
      rw [List.map_map]
      rfl
    rw [hsizes, hsizes, h]
  | trans _ _ ih ih' => exact ih.trans ih'

lemma length_eq (h : Rearranged rooms others) : rooms.length = others.length := by
  simpa using h.map_size.length_eq

end Rearranged

/-! ### Sizes -/

lemma SizeRange.ofRooms_eq_of_perm {rooms others : List Room}
    (h : (rooms.map Room.size).Perm (others.map Room.size)) : ofRooms rooms = ofRooms others := by
  have hmax : (rooms.map Room.size).max? = (others.map Room.size).max? := by
    ext a
    simp only [List.max?_eq_some_iff, h.mem_iff]
  have hmin : (rooms.map Room.size).min? = (others.map Room.size).min? := by
    ext a
    simp only [List.min?_eq_some_iff, h.mem_iff]
  simp only [ofRooms, hmax, hmin, ← List.sum_eq_foldr, h.sum_eq, h.length_eq]

/-! ### Seats -/

lemma Memberships.get_ofRooms_eq_of_perm {rooms others : List Room}
    (h : (rooms.flatMap Room.members).Perm (others.flatMap Room.members)) (user : String) :
    (ofRooms rooms).get user = (ofRooms others).get user := by
  rw [get_ofRooms, get_ofRooms, h.count_eq]

namespace Statistics

/-- The seats may be counted in any order, with any memberships that give every user the same
number. -/
lemma seatsWhere_eq_of_perm {roster roster' : Roster} {m m' : Memberships}
    (hseats : roster.users.Perm roster'.users) (hget : ∀ user, m.get user = m'.get user)
    (property : Nat → Bool) : seatsWhere roster m property = seatsWhere roster' m' property := by
  have hm : m.get = m'.get := funext hget
  rw [seatsWhere, seatsWhere, hm, ← Array.countP_toList, ← Array.countP_toList]
  exact (Array.perm_iff_toList_perm.mp hseats).countP_eq _

/-- A summary and its report stay the same when the seats of the roster are put in another order and
the rooms are rearranged. -/
theorem summarize_eq_of_rearranged {roster roster' : Roster} {rooms rooms' : List Room}
    (hseats : roster.users.Perm roster'.users) (hrooms : Rearranged rooms rooms')
    (threshold : Nat) :
    summarize roster rooms threshold = summarize roster' rooms' threshold ∧
      (summarize roster rooms threshold).report = (summarize roster' rooms' threshold).report := by
  have hget := Memberships.get_ofRooms_eq_of_perm hrooms.flatMap_members
  have hlength := hrooms.length_eq
  have hempty : rooms.isEmpty = rooms'.isEmpty := by
    rw [Bool.eq_iff_iff, List.isEmpty_iff_length_eq_zero, List.isEmpty_iff_length_eq_zero, hlength]
  have hsummary : summarize roster rooms threshold = summarize roster' rooms' threshold := by
    simp only [summarize, SizeRange.ofRooms_eq_of_perm hrooms.map_size, hlength, hempty,
      seatsWhere_eq_of_perm hseats hget]
  exact ⟨hsummary, congrArg report hsummary⟩

theorem summarize_eq_of_rearranged_of_two_rooms :
    let roster := Roster.ofList ["ann", "bob", "ann", "eve"]
    let roster' := Roster.ofList ["eve", "ann", "ann", "bob"]
    let rooms := [Room.numbered 0 ["ann", "bob"], .numbered 1 ["cid", "ann", "dan"]]
    let rooms' := [Room.mk "north" ["dan", "ann", "cid"], ⟨"south", ["bob", "ann"]⟩]
    roster.users.Perm roster'.users ∧ Rearranged rooms rooms' ∧
      summarize roster rooms 1 = summarize roster' rooms' 1 ∧
      (summarize roster rooms 1).report = (summarize roster' rooms' 1).report := by
  intro roster roster' rooms rooms'
  have hseats : roster.users.Perm roster'.users := Array.perm_iff_toList_perm.mpr (by decide)
  have hnames : Rearranged rooms [⟨"south", ["ann", "bob"]⟩, ⟨"north", ["cid", "ann", "dan"]⟩] :=
    .names rfl
  have hmembers : Rearranged [⟨"south", ["ann", "bob"]⟩, ⟨"north", ["cid", "ann", "dan"]⟩]
      [⟨"south", ["bob", "ann"]⟩, ⟨"north", ["dan", "ann", "cid"]⟩] :=
    .members (.cons ⟨rfl, by decide⟩ (.cons ⟨rfl, by decide⟩ .nil))
  have hrooms := (hnames.trans hmembers).trans (.rooms (.swap _ _ []))
  exact ⟨hseats, hrooms, summarize_eq_of_rearranged hseats hrooms 1⟩

end Statistics

end RoomDraw
