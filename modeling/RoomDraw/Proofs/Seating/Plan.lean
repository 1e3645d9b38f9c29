import Mathlib.Data.List.Basic
import RoomDraw.Proofs.Seating

/-!
# Seating follows a plan of seats

Which seats make a room is drawn without looking at who sits there: it depends on the number of
seats and the sizes only. `drawPlan` draws the seats for all rooms, and where no size exceeds the
number of seats, seating users is drawing a plan and reading off the roster who sits at its seats.
Rooms are planned in order, so that a plan for sizes in two parts is a plan for each part, and the
first size that is too large ends the seating before anything is drawn for it.
-/

namespace RoomDraw

/-! ### Plans -/

/-- The rooms that the users at planned seats make, numbered from a place on. -/
def Roster.roomsAt (roster : Roster) (start : Nat) (plan : List (List Nat)) : List Room :=
  plan.mapIdx fun k seats => .numbered (start + k) (roster.usersAt seats)

@[simp] lemma Roster.roomsAt_nil (roster : Roster) (start : Nat) : roster.roomsAt start [] = [] :=
  rfl

lemma Roster.roomsAt_cons (roster : Roster) (start : Nat) (seats : List Nat)
    (plan : List (List Nat)) :
    roster.roomsAt start (seats :: plan) =
      .numbered start (roster.usersAt seats) :: roster.roomsAt (start + 1) plan := by
  simp only [roomsAt, List.mapIdx_cons, Nat.add_zero, Nat.add_assoc, Nat.add_comm 1]

lemma Roster.roomsAt_append (roster : Roster) (start : Nat) (plan others : List (List Nat)) :
    roster.roomsAt start (plan ++ others) =
      roster.roomsAt start plan ++ roster.roomsAt (start + plan.length) others := by
  simp [roomsAt, List.mapIdx_append, Nat.add_assoc, Nat.add_comm plan.length]

/-- Rooms with the names that rooms have from a place on. -/
def renumbered (start : Nat) (rooms : Array Room) : Array Room :=
  rooms.mapIdx fun k room => .numbered (start + k) room.members

lemma renumbered_roomsAt (roster : Roster) (start first : Nat) (plan : List (List Nat)) :
    renumbered start (roster.roomsAt first plan).toArray = (roster.roomsAt start plan).toArray := by
  simp [renumbered, Roster.roomsAt, Room.numbered, Function.comp_def]

variable {σ : Type} [Generator σ]

/-- The seats for rooms of the given sizes, drawn room after room. -/
def drawPlan (seats : Nat) (sizes : List RoomSize) : Draw? σ (List (List Nat)) :=
  sizes.mapM fun size => selectSeats seats size.value

lemma drawPlan_nil (seats : Nat) (g : σ) : drawPlan seats [] g = some ([], g) := rfl

lemma drawPlan_cons (seats : Nat) (size : RoomSize) (sizes : List RoomSize) (g : σ) :
    drawPlan seats (size :: sizes) g =
      (selectSeats seats size.value g).bind fun first =>
        (drawPlan seats sizes first.2).map fun others => (first.1 :: others.1, others.2) := by
  simp only [drawPlan, List.mapM_cons, Draw?.bind_apply, Draw?.pure_apply, Option.map_eq_bind]
  rfl

lemma drawPlan_append (seats : Nat) (sizes others : List RoomSize) (g : σ) :
    drawPlan seats (sizes ++ others) g =
      (drawPlan seats sizes g).bind fun r =>
        (drawPlan seats others r.2).map fun s => (r.1 ++ s.1, s.2) := by
  simp only [drawPlan, List.mapM_append, Draw?.bind_apply, Draw?.pure_apply, Option.map_eq_bind]
  rfl

/-- A plan has the seats of the first room, and those of the others behind them. -/
lemma exists_of_drawPlan_cons {seats : Nat} {size : RoomSize} {sizes : List RoomSize} {g g' : σ}
    {plan : List (List Nat)} (h : drawPlan seats (size :: sizes) g = some (plan, g')) :
    ∃ first others g₁, selectSeats seats size.value g = some (first, g₁) ∧
      drawPlan seats sizes g₁ = some (others, g') ∧ plan = first :: others := by
  rw [drawPlan_cons] at h
  obtain ⟨⟨first, g₁⟩, hfirst, h⟩ := Option.bind_eq_some_iff.mp h
  obtain ⟨⟨others, g₂⟩, hothers, h⟩ := Option.map_eq_some_iff.mp h
  obtain ⟨rfl, rfl⟩ := Prod.mk.inj h
  exact ⟨first, others, g₁, hfirst, hothers, rfl⟩

lemma length_of_drawPlan {seats : Nat} {sizes : List RoomSize} {g g' : σ} {plan : List (List Nat)}
    (h : drawPlan seats sizes g = some (plan, g')) : plan.length = sizes.length := by
  induction sizes generalizing g plan with
  | nil =>
    obtain rfl := (Prod.mk.inj (Option.some.inj h)).1
    rfl
  | cons size sizes ih =>
    obtain ⟨first, others, g₁, -, hothers, rfl⟩ := exists_of_drawPlan_cons h
    exact congrArg (· + 1) (ih hothers)

/-- A plan has no seats but those that there are. -/
lemma lt_of_drawPlan {seats : Nat} {sizes : List RoomSize} {g g' : σ} {plan : List (List Nat)}
    (hsizes : ∀ size ∈ sizes, size.value ≤ seats) (h : drawPlan seats sizes g = some (plan, g')) :
    ∀ chosen ∈ plan, ∀ seat ∈ chosen, seat < seats := by
  induction sizes generalizing g plan with
  | nil =>
    obtain rfl := (Prod.mk.inj (Option.some.inj h)).1
    simp
  | cons size sizes ih =>
    obtain ⟨first, others, g₁, hfirst, hothers, rfl⟩ := exists_of_drawPlan_cons h
    have hsize := hsizes size List.mem_cons_self
    obtain ⟨-, hlt, -⟩ := (fromDraws_of_selectSeatsBy hsize hfirst).distinct hsize
    intro chosen hchosen
    rcases List.mem_cons.mp hchosen with rfl | hchosen
    · exact hlt
    · exact ih (fun s hs => hsizes s (List.mem_cons_of_mem size hs)) hothers chosen hchosen

/-! ### Seating by a plan -/

/-- Where no size is too large, the rooms behind those seated already are the ones of a plan. -/
lemma seatRooms_eq_drawPlan {roster : Roster} {sizes : List RoomSize}
    (hsizes : ∀ size ∈ sizes, size.value ≤ roster.size) (rooms : Array Room) (g : σ) :
    seatRooms roster rooms sizes g =
      (drawPlan roster.size sizes g).map fun r =>
        (⟨rooms ++ roster.roomsAt rooms.size r.1, none⟩, r.2) := by
  -- the rooms seated already only say where the numbering starts
  induction sizes generalizing rooms g with
  | nil =>
    simp only [drawPlan_nil, Option.map_some, Roster.roomsAt_nil, Array.appendList_nil]
    rfl
  | cons size sizes ih =>
    have hothers : ∀ s ∈ sizes, s.value ≤ roster.size :=
      fun s hs => hsizes s (List.mem_cons_of_mem size hs)
    rw [seatRooms_cons_of_le (hsizes size List.mem_cons_self), drawRoom_eq, drawPlan_cons]
    cases selectSeats roster.size size.value g with
    | none => rfl
    | some first =>
      simp only [Option.map_some, Option.bind_some, Option.map_map, ih hothers]
      simp [Function.comp_def, Roster.roomsAt_cons]

lemma seat_eq_drawPlan {roster : Roster} {sizes : List RoomSize}
    (hsizes : ∀ size ∈ sizes, size.value ≤ roster.size) (g : σ) :
    seat roster sizes g =
      (drawPlan roster.size sizes g).map fun r =>
        (⟨(roster.roomsAt 0 r.1).toArray, none⟩, r.2) := by
  rw [seat, seatRooms_eq_drawPlan hsizes]
  simp

/-- The first size that is too large ends the seating, with the rooms for the sizes before it. -/
lemma seatRooms_of_lt {roster : Roster} {before : List RoomSize}
    (hbefore : ∀ size ∈ before, size.value ≤ roster.size) {size : RoomSize}
    (hsize : roster.size < size.value) (others : List RoomSize) (rooms : Array Room) (g : σ) :
    seatRooms roster rooms (before ++ size :: others) g =
      (seatRooms roster rooms before g).map fun r =>
        (⟨r.1.rooms, some (.roomTooLarge (rooms.size + before.length) size.value roster.size)⟩,
          r.2) := by
  induction before generalizing rooms g with
  | nil =>
    rw [List.nil_append, seatRooms_cons_of_lt hsize]
    rfl
  | cons first before ih =>
    have hfirst := hbefore first List.mem_cons_self
    have hbefore : ∀ s ∈ before, s.value ≤ roster.size :=
      fun s hs => hbefore s (List.mem_cons_of_mem first hs)
    rw [List.cons_append, seatRooms_cons_of_le hfirst, seatRooms_cons_of_le hfirst]
    cases drawRoom roster rooms.size first g with
    | none => rfl
    | some r =>
      simp only [Option.bind_some, ih hbefore]
      simp [Nat.add_right_comm, Nat.add_assoc]

/-! ### What seating depends on -/

/-- Sizes that do not all fit have a first one that is too large. -/
lemma exists_first_tooLarge {seats : Nat} {sizes : List RoomSize}
    (h : ∃ size ∈ sizes, seats < size.value) :
    ∃ before size others, sizes = before ++ size :: others ∧
      (∀ s ∈ before, s.value ≤ seats) ∧ seats < size.value := by
  obtain ⟨size, hfirst⟩ : ∃ size, sizes.find? (fun size => seats < size.value) = some size := by
    rw [← Option.isSome_iff_exists, List.find?_isSome]
    simpa using h
  obtain ⟨hsize, before, others, hsplit, hbefore⟩ := List.find?_eq_some_iff_append.mp hfirst
  exact ⟨before, size, others, hsplit, by simpa using hbefore, by simpa using hsize⟩

/-- Seating has an error exactly if some size is too large. -/
lemma exists_error_iff {roster : Roster} {sizes : List RoomSize} {g g' : σ} {s : Seating}
    (h : seat roster sizes g = some (s, g')) :
    (∃ e, s.toExcept = .error e) ↔ ∃ size ∈ sizes, roster.size < size.value := by
  constructor
  · rintro ⟨e, herror⟩
    by_contra hfits
    push Not at hfits
    rw [seat_eq_drawPlan hfits] at h
    obtain ⟨r, -, h⟩ := Option.map_eq_some_iff.mp h
    obtain ⟨rfl, -⟩ := Prod.mk.inj h
    cases herror
  · intro hlarge
    obtain ⟨before, size, others, rfl, hbefore, hsize⟩ := exists_first_tooLarge hlarge
    rw [seat, seatRooms_of_lt hbefore hsize] at h
    obtain ⟨r, -, h⟩ := Option.map_eq_some_iff.mp h
    obtain ⟨rfl, -⟩ := Prod.mk.inj h
    exact ⟨_, rfl⟩

/-- Seating goes from room to room and ends at the first room that is too large, with the generator
that the rooms before it leave. Sizes in two parts give the rooms of the first part, and behind them
those of the second part, which are drawn with the generator that the first part leaves. -/
theorem seat_room_after_room (roster : Roster) (sizes : List RoomSize) (g : σ) :
    (∀ s g', seat roster sizes g = some (s, g') →
      ((∃ e, s.toExcept = .error e) ↔ ∃ size ∈ sizes, roster.size < size.value)) ∧
    (∀ i (hi : i < sizes.length), (∀ size ∈ sizes.take i, size.value ≤ roster.size) →
      roster.size < sizes[i].value →
      seat roster sizes g = do
        let (before, g') ← seat roster (sizes.take i) g
        return (⟨before.rooms, some (.roomTooLarge i sizes[i].value roster.size)⟩, g')) ∧
    ∀ first second, sizes = first ++ second → (∀ size ∈ sizes, size.value ≤ roster.size) →
      seat roster sizes g = do
        let (s₁, g₁) ← seat roster first g
        let (s₂, g₂) ← seat roster second g₁
        return (⟨s₁.rooms ++ renumbered first.length s₂.rooms, none⟩, g₂) := by
  refine ⟨fun s g' => exists_error_iff, ?_, ?_⟩
  · intro i hi hbefore hsize
    have hsplit : sizes = sizes.take i ++ sizes[i] :: sizes.drop (i + 1) := by
      rw [List.getElem_cons_drop, List.take_append_drop]
    conv_lhs => rw [hsplit]
    rw [seat, seatRooms_of_lt hbefore hsize, List.length_take_of_le hi.le, Array.size_empty,
      Nat.zero_add, Option.map_eq_bind]
    rfl
  · rintro first second rfl hsizes
    have hfirst : ∀ size ∈ first, size.value ≤ roster.size :=
      fun size hsize => hsizes size (List.mem_append_left second hsize)
    have hsecond : ∀ size ∈ second, size.value ≤ roster.size :=
      fun size hsize => hsizes size (List.mem_append_right first hsize)
    -- the plan for all sizes is the plan for the first part and, behind it, that for the second
    rw [seat_eq_drawPlan hsizes, seat_eq_drawPlan hfirst, drawPlan_append]
    simp only [seat_eq_drawPlan hsecond]
    cases hplan : drawPlan roster.size first g with
    | none => rfl
    | some r =>
      rw [← length_of_drawPlan hplan]
      cases hothers : drawPlan roster.size second r.2 <;>
        simp [hothers, Roster.roomsAt_append, renumbered_roomsAt]

/-- A room of four is too large for three users: it ends the seating where the room before it has
left the generator, and that is where a room of three goes on instead. -/
theorem seat_room_after_room_of_three :
    let roster := Roster.ofList ["ann", "bob", "cid"]
    let words := [0, 0xFFFFFFFF, 0x80000000]
    let two : RoomSize := ⟨2, by decide⟩
    let three : RoomSize := ⟨3, by decide⟩
    let four : RoomSize := ⟨4, by decide⟩
    let room : Room := ⟨"Room 0", ["ann", "cid"]⟩
    let left : Script := ⟨words.toArray, 2⟩
    seat roster [two] (Script.ofList words) = some (⟨#[room], none⟩, left) ∧
      seat roster [two, four, three] (Script.ofList words) =
        some (⟨#[room], some (.roomTooLarge 1 4 3)⟩, left) ∧
      seat roster [two, three] (Script.ofList words) =
        some (⟨#[room, ⟨"Room 1", ["bob", "ann", "cid"]⟩], none⟩, left) := by
  intro roster words two three four room left
  have hfirst : seat roster [two] (Script.ofList words) = some (⟨#[room], none⟩, left) := by
    decide +kernel
  have hsecond : seat roster [three] left =
      some (⟨#[⟨"Room 0", ["bob", "ann", "cid"]⟩], none⟩, left) := by decide +kernel
  refine ⟨hfirst, ?_, ?_⟩
  · have hlarge := (seat_room_after_room roster [two, four, three] (Script.ofList words)).2.1 1
      (by decide) (by decide) (by decide)
    rw [hlarge, List.take_succ_cons, List.take_zero, hfirst]
    rfl
  · have hparts := (seat_room_after_room roster [two, three] (Script.ofList words)).2.2 [two]
      [three] rfl (by decide)
    have hbehind : #[room] ++ renumbered 1 #[⟨"Room 0", ["bob", "ann", "cid"]⟩] =
        #[room, ⟨"Room 1", ["bob", "ann", "cid"]⟩] := by decide +kernel
    rw [hparts, hfirst, ← hbehind]
    dsimp only [Option.bind_eq_bind, Option.bind_some]
    rw [hsecond]
    rfl

end RoomDraw
