import RoomDraw.Proofs.Generation
import RoomDraw.Proofs.Manifest.Rooms

/-!
# What every generation keeps to

Where the drawing of members comes to an end, a generation succeeds, with one room and one entry of
the manifest for each size that was drawn. The drawing always comes to an end when there are so few
seats that none are selected by rejection.
-/

namespace RoomDraw

/-! ### Drawing that always ends -/

variable {σ : Type} [Generator σ]

/-- Only the selection by rejection may see no end. -/
lemma selectSeatsBy_isSome {method : SelectionMethod} (h : method ≠ .rejection)
    (seats amount : Nat) (g : σ) : (selectSeatsBy method seats amount g).isSome := by
  cases method with
  | replacement => rfl
  | shuffle => rfl
  | rejection => exact absurd rfl h

lemma SelectionMethod.choose_ne_rejection {seats amount : Nat} (h : amount < largeAmount) :
    choose seats amount ≠ .rejection := by
  unfold choose
  rw [if_pos h]
  split <;> simp

lemma drawRoom_isSome {roster : Roster} {size : RoomSize}
    (h : size.value < SelectionMethod.largeAmount) (index : Nat) (g : σ) :
    (drawRoom roster index size g).isSome := by
  have hmethod : SelectionMethod.choose roster.size size.value ≠ .rejection :=
    SelectionMethod.choose_ne_rejection h
  rw [drawRoom_eq, Option.isSome_map]
  exact selectSeatsBy_isSome hmethod roster.size size.value g

lemma seatRooms_isSome {roster : Roster} {sizes : List RoomSize}
    (h : ∀ size ∈ sizes, size.value < SelectionMethod.largeAmount) (rooms : Array Room) (g : σ) :
    (seatRooms roster rooms sizes g).isSome := by
  induction sizes generalizing rooms g with
  | nil => rfl
  | cons size sizes ih =>
    rcases Nat.lt_or_ge roster.size size.value with hlarge | hsize
    · rw [seatRooms_cons_of_lt hlarge]
      rfl
    · have hroom : (drawRoom roster rooms.size size g).isSome :=
        drawRoom_isSome (h size List.mem_cons_self) rooms.size g
      obtain ⟨r, hr⟩ := Option.isSome_iff_exists.mp hroom
      rw [seatRooms_cons_of_le hsize, hr, Option.bind_some]
      exact ih (fun s hs => h s (List.mem_cons_of_mem size hs)) _ _

/-- Rooms for fewer seats than are ever selected by rejection are drawn from every generator. -/
lemma seat_isSome_of_lt_largeAmount {roster : Roster}
    (h : roster.size < SelectionMethod.largeAmount) (g : σ) :
    (seat roster (drawSizes roster.size roster.size g).1
      (drawSizes roster.size roster.size g).2).isSome :=
  seatRooms_isSome
    (fun size hsize => (drawSizes_le roster.size roster.size g size hsize).trans_lt h) #[] _

/-! ### Rooms and their entries -/

/-- What holds of the rooms of a roster for the sizes drawn, and of their manifest. -/
structure Generation.Invariants (roster : Roster) (sizes : List RoomSize) (rooms : List Room) :
    Prop where
  length_rooms : rooms.length = sizes.length
  length_rooms_le : rooms.length ≤ roster.size
  length_creators : (Manifest.ofRooms rooms).creators.length = sizes.length
  /-- The room for a size seats as many members as that, and the first of them creates it and
  invites the others. -/
  room : ∀ k (hk : k < sizes.length), ∃ creator users,
    Seated roster k sizes[k] ⟨s!"Room {k}", creator :: users⟩ ∧
    rooms[k]? = some ⟨s!"Room {k}", creator :: users⟩ ∧
    (Manifest.ofRooms rooms).creators[k]? = some ⟨creator, s!"Room {k}", users⟩ ∧
    users.length + 1 = sizes[k].value ∧ 2 ≤ sizes[k].value ∧ sizes[k].value ≤ roster.size
  /-- One user alone makes no rooms. -/
  eq_nil : roster.size < 2 → rooms = []

/-- Rooms with a member have an entry each. -/
lemma Manifest.creators_ofRooms_eq_map {rooms : List Room} (h : ∀ room ∈ rooms, room.members ≠ []) :
    (ofRooms rooms).creators.map some = rooms.map CreationEntry.ofRoom? := by
  induction rooms with
  | nil => rfl
  | cons room rooms ih =>
    obtain ⟨name, members⟩ := room
    obtain ⟨creator, users, rfl⟩ := List.exists_cons_of_ne_nil (h _ List.mem_cons_self)
    exact congrArg (some ⟨creator, name, users⟩ :: ·)
      (ih fun room hroom => h room (List.mem_cons_of_mem _ hroom))

lemma Seated.exists_creator {roster : Roster} {index : Nat} {size : RoomSize} {room : Room}
    (h : Seated roster index size room) :
    ∃ creator users, room = ⟨s!"Room {index}", creator :: users⟩ := by
  obtain ⟨name, members⟩ := room
  obtain rfl : name = s!"Room {index}" := h.name_eq
  have hlength := h.two_le_length
  cases members with
  | nil => simp at hlength
  | cons creator users => exact ⟨creator, users, rfl⟩

/-- Rooms seated one for each size that does not exceed the number of seats keep to it all. -/
lemma Generation.Invariants.of_seated {roster : Roster} {sizes : List RoomSize} {rooms : List Room}
    (hsizes : ∀ size ∈ sizes, size.value ≤ roster.size) (hcount : sizes.length ≤ roster.size)
    (hlength : rooms.length = sizes.length)
    (hseated : ∀ k (hk : k < sizes.length), ∃ room, rooms[k]? = some room ∧
      Seated roster k sizes[k] room) : Invariants roster sizes rooms := by
  have hcreators : (Manifest.ofRooms rooms).creators.map some =
      rooms.map CreationEntry.ofRoom? := by
    refine Manifest.creators_ofRooms_eq_map fun room hroom hnil => ?_
    obtain ⟨index, size, hseat⟩ := exists_seated_of_mem hlength hseated room hroom
    have := hseat.two_le_length
    simp [hnil] at this
  refine ⟨hlength, hlength ▸ hcount, ?_, ?_, ?_⟩
  · have := congrArg List.length hcreators
    rw [List.length_map, List.length_map] at this
    exact this.trans hlength
  · intro k hk
    obtain ⟨room, hroom, hseat⟩ := hseated k hk
    obtain ⟨creator, users, rfl⟩ := hseat.exists_creator
    refine ⟨creator, users, hseat, hroom, ?_, hseat.size_eq, sizes[k].two_le,
      hsizes _ (List.getElem_mem hk)⟩
    have hentry := congrArg (·[k]?) hcreators
    simpa [hroom, CreationEntry.ofRoom?, Room.creator?, Room.invitees] using hentry
  · intro hfew
    rw [← List.length_eq_zero_iff, hlength, List.length_eq_zero_iff, List.eq_nil_iff_forall_not_mem]
    intro size hsize
    have := hsizes size hsize
    have := size.two_le
    omega

/-- A generation succeeds from every generator from which the drawing of members comes to an end,
and its rooms keep to all that is asked of them. No size that was drawn is too large for a room. -/
theorem generate_keeps_invariants {roster : Roster} {g : σ}
    (h : (seat roster (drawSizes roster.size roster.size g).1
      (drawSizes roster.size roster.size g).2).isSome) :
    ∃ generation g' rooms, generate roster g = some (generation, g') ∧
      generation.sizes = (drawSizes roster.size roster.size g).1 ∧
      (∀ size ∈ generation.sizes, ¬ roster.size < size.value) ∧
      generation.seating.toExcept = .ok rooms ∧
      Generation.Invariants roster generation.sizes rooms := by
  obtain ⟨⟨seating, g'⟩, hseat⟩ := Option.isSome_iff_exists.mp h
  have hgenerate : generate roster g =
      some (⟨(drawSizes roster.size roster.size g).1, seating⟩, g') := by
    rw [generate_eq, hseat]
    rfl
  have hsizes := drawSizes_le roster.size roster.size g
  obtain ⟨rooms, hrooms, hlength, hseated⟩ := seated_of_generate hgenerate
  refine ⟨_, g', rooms, hgenerate, rfl, fun size hsize => Nat.not_lt.mpr (hsizes size hsize),
    hrooms, .of_seated hsizes (length_drawSizes_le roster.size roster.size g) hlength hseated⟩

/-- Three seats, two of them of one user, make three rooms at most. -/
theorem generate_keeps_invariants_of_three :
    let roster := Roster.ofList ["ann", "bob", "ann"]
    let g := Script.ofList [0, 0xFFFFFFFF, 0x80000000]
    (seat roster (drawSizes 3 3 g).1 (drawSizes 3 3 g).2).isSome ∧
      ∃ generation g' rooms, generate roster g = some (generation, g') ∧
        generation.seating.toExcept = .ok rooms ∧ rooms.length ≤ 3 ∧
        (Manifest.ofRooms rooms).creators.length = generation.sizes.length := by
  intro roster g
  have hfew : roster.size < SelectionMethod.largeAmount := by decide
  have hends : (seat roster (drawSizes roster.size roster.size g).1
      (drawSizes roster.size roster.size g).2).isSome := seat_isSome_of_lt_largeAmount hfew g
  obtain ⟨generation, g', rooms, hgenerate, -, -, hrooms, hinvariants⟩ :=
    generate_keeps_invariants hends
  exact ⟨hends, generation, g', rooms, hgenerate, hrooms, hinvariants.length_rooms_le,
    hinvariants.length_creators⟩

end RoomDraw
