import Mathlib.Data.List.Perm.Subperm
import RoomDraw.Generator.Script
import RoomDraw.Proofs.Seat.Distinct
import RoomDraw.Seating

/-!
# Rooms are sampled without replacement

Every room seats users from distinct seats of the roster, as many as its size says. One lemma tells
what drawing a room does, and one what seating all rooms does, by induction on the sizes: the rooms
seated already stay, and each size adds its room behind them.
-/

namespace RoomDraw

open Selection

/-! ### Users at seats -/

lemma Roster.map_some_usersAt {roster : Roster} {seats : List Nat}
    (h : ∀ seat ∈ seats, seat < roster.size) :
    (roster.usersAt seats).map some = seats.map (roster.users[·]?) := by
  induction seats with
  | nil => rfl
  | cons seat seats ih =>
    have hlt : seat < roster.users.size := h seat List.mem_cons_self
    have hseat : roster.users[seat]? = some roster.users[seat] := Array.getElem?_eq_getElem hlt
    have hseats := ih fun s hs => h s (List.mem_cons_of_mem seat hs)
    rw [usersAt, List.filterMap_cons_some hseat, List.map_cons, List.map_cons, hseat]
    exact congrArg _ hseats

lemma Roster.length_usersAt {roster : Roster} {seats : List Nat}
    (h : ∀ seat ∈ seats, seat < roster.size) :
    (roster.usersAt seats).length = seats.length := by
  have := congrArg List.length (map_some_usersAt h)
  simpa using this

lemma Roster.usersAt_range (roster : Roster) :
    roster.usersAt (List.range roster.size) = roster.users.toList := by
  have h : (roster.usersAt (List.range roster.size)).map some =
      (List.range roster.size).map (roster.users[·]?) :=
    map_some_usersAt fun seat => List.mem_range.mp
  refine List.map_injective_iff.mpr (Option.some_injective _) (h.trans ?_)
  apply List.ext_getElem
  · simp [Roster.size]
  · intro k hk hk'
    simp_all [Roster.size]

/-- The users at distinct seats are among those of the roster, each as often as it has seats. -/
lemma Roster.usersAt_subperm {roster : Roster} {seats : List Nat} (hnodup : seats.Nodup)
    (h : ∀ seat ∈ seats, seat < roster.size) :
    (roster.usersAt seats).Subperm roster.users.toList := by
  obtain ⟨l, hperm, hsublist⟩ : seats.Subperm (List.range roster.size) :=
    hnodup.subperm fun seat hseat => List.mem_range.mpr (h seat hseat)
  rw [← roster.usersAt_range]
  exact ⟨roster.usersAt l, hperm.filterMap _, hsublist.filterMap _⟩

/-! ### Rooms -/

/-- A room of a size, at a place in the sequence of rooms: its members are the users at distinct
seats, which the method for the size makes of draws within their bounds. -/
structure Seated (roster : Roster) (index : Nat) (size : RoomSize) (room : Room) : Prop where
  name_eq : room.name = s!"Room {index}"
  size_eq : room.size = size.value
  exists_seats : ∃ seats : List Nat,
    FromDraws roster.size size.value (.choose roster.size size.value) seats ∧
    seats.Nodup ∧ (∀ seat ∈ seats, seat < roster.size) ∧
    room.members.map some = seats.map (roster.users[·]?)

lemma Seated.subperm {roster : Roster} {index : Nat} {size : RoomSize} {room : Room}
    (h : Seated roster index size room) : room.members.Subperm roster.users.toList := by
  obtain ⟨seats, -, hnodup, hlt, hmembers⟩ := h.exists_seats
  have hat : room.members = roster.usersAt seats :=
    List.map_injective_iff.mpr (Option.some_injective _)
      (hmembers.trans (Roster.map_some_usersAt hlt).symm)
  exact hat ▸ Roster.usersAt_subperm hnodup hlt

variable {σ : Type} [Generator σ]

lemma drawRoom_eq (roster : Roster) (index : Nat) (size : RoomSize) (g : σ) :
    drawRoom roster index size g =
      (selectSeats roster.size size.value g).map fun r =>
        (.numbered index (roster.usersAt r.1), r.2) := by
  rw [drawRoom, Draw?.bind_apply, Option.map_eq_bind]
  rfl

/-- A room that is not too large is drawn, and the others are seated behind it. -/
lemma seatRooms_cons_of_le {roster : Roster} {size : RoomSize} (hsize : size.value ≤ roster.size)
    (rooms : Array Room) (sizes : List RoomSize) (g : σ) :
    seatRooms roster rooms (size :: sizes) g =
      (drawRoom roster rooms.size size g).bind fun r =>
        seatRooms roster (rooms.push r.1) sizes r.2 := by
  rw [seatRooms, seatRoomsBy, if_neg (Nat.not_lt.mpr hsize), Draw?.bind_apply]

/-- A room that is too large ends the seating, and nothing is drawn for it. -/
lemma seatRooms_cons_of_lt {roster : Roster} {size : RoomSize} (hsize : roster.size < size.value)
    (rooms : Array Room) (sizes : List RoomSize) (g : σ) :
    seatRooms roster rooms (size :: sizes) g =
      some (⟨rooms, some (.roomTooLarge rooms.size size.value roster.size)⟩, g) := by
  rw [seatRooms, seatRoomsBy, if_pos hsize]
  rfl

/-- Drawing a room that is not too large seats it. -/
lemma seated_of_drawRoom {roster : Roster} {index : Nat} {size : RoomSize} {g : σ}
    {r : Room × σ} (hsize : size.value ≤ roster.size)
    (h : drawRoom roster index size g = some r) : Seated roster index size r.1 := by
  rw [drawRoom_eq] at h
  obtain ⟨⟨seats, g₁⟩, hselect, rfl⟩ := Option.map_eq_some_iff.mp h
  have hdraws := fromDraws_of_selectSeatsBy hsize hselect
  obtain ⟨hnodup, hlt, hlength⟩ := hdraws.distinct hsize
  exact ⟨rfl, (Roster.length_usersAt hlt).trans hlength,
    seats, hdraws, hnodup, hlt, Roster.map_some_usersAt hlt⟩

/-- Seating rooms of sizes that are not too large leaves those seated already, and seats one room
for each size behind them. -/
lemma seated_of_seatRooms {roster : Roster} {rooms : Array Room} {sizes : List RoomSize} {g : σ}
    {r : Seating × σ} (hsizes : ∀ size ∈ sizes, size.value ≤ roster.size)
    (h : seatRooms roster rooms sizes g = some r) :
    r.1.error = none ∧ ∃ added : List Room, r.1.rooms.toList = rooms.toList ++ added ∧
      added.length = sizes.length ∧
      ∀ k (hk : k < sizes.length), ∃ room, added[k]? = some room ∧
        Seated roster (rooms.size + k) sizes[k] room := by
  induction sizes generalizing rooms g with
  | nil =>
    obtain rfl := Option.some.inj h
    exact ⟨rfl, [], by simp, rfl, by simp⟩
  | cons size sizes ih =>
    have hsize := hsizes size List.mem_cons_self
    rw [seatRooms_cons_of_le hsize] at h
    obtain ⟨⟨room, g₁⟩, hroom, hrest⟩ := Option.bind_eq_some_iff.mp h
    obtain ⟨herror, added, hrooms, hlength, hseated⟩ :=
      ih (fun s hs => hsizes s (List.mem_cons_of_mem size hs)) hrest
    refine ⟨herror, room :: added, by simpa using hrooms, congrArg (· + 1) hlength, ?_⟩
    intro k hk
    cases k with
    | zero => exact ⟨room, rfl, seated_of_drawRoom hsize hroom⟩
    | succ k =>
      obtain ⟨other, hother, hseat⟩ := hseated k (Nat.lt_of_succ_lt_succ hk)
      rw [Array.size_push, Nat.add_right_comm, Nat.add_assoc] at hseat
      exact ⟨other, hother, hseat⟩

/-- Seating from the start gives one room for each size, in order. -/
lemma seated_of_seat {roster : Roster} {sizes : List RoomSize} {g g' : σ} {s : Seating}
    (hsizes : ∀ size ∈ sizes, size.value ≤ roster.size)
    (h : seat roster sizes g = some (s, g')) :
    ∃ rooms : List Room, s.toExcept = .ok rooms ∧ rooms.length = sizes.length ∧
      ∀ k (hk : k < sizes.length), ∃ room, rooms[k]? = some room ∧
        Seated roster k sizes[k] room := by
  obtain ⟨herror, rooms, hrooms, hlength, hseated⟩ := seated_of_seatRooms hsizes h
  refine ⟨rooms, ?_, hlength, ?_⟩
  · rw [Seating.toExcept, herror, hrooms]
    rfl
  · intro k hk
    simpa using hseated k hk

/-- Rooms that are seated one for each size, in order, are all seated. -/
lemma exists_seated_of_mem {roster : Roster} {sizes : List RoomSize} {rooms : List Room}
    (hlength : rooms.length = sizes.length)
    (hseated : ∀ k (hk : k < sizes.length), ∃ room, rooms[k]? = some room ∧
      Seated roster k sizes[k] room) :
    ∀ room ∈ rooms, ∃ index size, Seated roster index size room := by
  intro room hroom
  obtain ⟨k, hk, rfl⟩ := List.getElem_of_mem hroom
  obtain ⟨room, hroom, hseat⟩ := hseated k (hlength ▸ hk)
  rw [List.getElem?_eq_getElem hk] at hroom
  exact ⟨k, sizes[k], Option.some.inj hroom ▸ hseat⟩

/-- Seating users in rooms samples them without replacement: there is one room for each size, in
order, and its members are the users at distinct seats of the roster. So no user is more often in a
room than in the roster. -/
theorem seat_samples_distinct_seats {roster : Roster} {sizes : List RoomSize} {g g' : σ}
    {s : Seating} (hsizes : ∀ size ∈ sizes, size.value ≤ roster.size)
    (h : seat roster sizes g = some (s, g')) :
    ∃ rooms : List Room, s.toExcept = .ok rooms ∧ rooms.length = sizes.length ∧
      (∀ k (hk : k < sizes.length), ∃ room, rooms[k]? = some room ∧
        Seated roster k sizes[k] room) ∧
      (∀ room ∈ rooms, ∀ user, room.members.count user ≤ roster.users.toList.count user) ∧
      (roster.users.toList.Nodup → ∀ room ∈ rooms, room.members.Nodup) := by
  obtain ⟨rooms, hrooms, hlength, hseated⟩ := seated_of_seat hsizes h
  have hsubperm : ∀ room ∈ rooms, room.members.Subperm roster.users.toList := by
    intro room hroom
    obtain ⟨index, size, hseat⟩ := exists_seated_of_mem hlength hseated room hroom
    exact hseat.subperm
  refine ⟨rooms, hrooms, hlength, hseated, ?_, ?_⟩
  · intro room hroom user
    exact (hsubperm room hroom).count_le user
  · intro hnodup room hroom
    exact List.nodup_iff_count_le_one.mpr fun user =>
      ((hsubperm room hroom).count_le user).trans (List.nodup_iff_count_le_one.mp hnodup user)

/-- A user with two seats may be in a room twice, and a user with one seat may not. -/
theorem seat_samples_distinct_seats_of_three :
    let roster := Roster.ofList ["ann", "bob", "ann"]
    let sizes : List RoomSize := [⟨2, by decide⟩, ⟨3, by decide⟩]
    let words := [0, 0xFFFFFFFF, 0x80000000]
    let s : Seating := ⟨#[⟨"Room 0", ["ann", "ann"]⟩, ⟨"Room 1", ["bob", "ann", "ann"]⟩], none⟩
    (∀ size ∈ sizes, size.value ≤ roster.size) ∧
      seat roster sizes (Script.ofList words) = some (s, ⟨words.toArray, 2⟩) ∧
      ∃ rooms, s.toExcept = .ok rooms ∧ rooms.length = 2 ∧
        ∀ room ∈ rooms, room.members.count "bob" ≤ 1 := by
  intro roster sizes words s
  have hsizes : ∀ size ∈ sizes, size.value ≤ roster.size := by decide
  have hseat : seat roster sizes (Script.ofList words) = some (s, ⟨words.toArray, 2⟩) := by
    decide +kernel
  obtain ⟨rooms, hrooms, hlength, -, hcount, -⟩ := seat_samples_distinct_seats hsizes hseat
  refine ⟨hsizes, hseat, rooms, hrooms, hlength, fun room hroom => ?_⟩
  exact (hcount room hroom "bob").trans (by decide)

end RoomDraw
