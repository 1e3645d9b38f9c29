import RoomDraw.Generator.KeyStream
import RoomDraw.Proofs.Generation.Invariants
import RoomDraw.Roster.Decoding

/-!
# Who is invited

The creator of a room and those whom it invites sit at distinct seats of the roster. So nobody is in
an entry more often than in the roster, and a user with one seat is neither invited twice nor by
itself. A user with more seats may be.
-/

namespace RoomDraw

/-- What holds of every entry that is made for a roster. -/
structure CreationEntry.Drawn (roster : Roster) (entry : CreationEntry) : Prop where
  /-- The creator and those invited are the users at distinct seats. -/
  exists_seats : ∃ seats : List Nat, seats.Nodup ∧ (∀ seat ∈ seats, seat < roster.size) ∧
    (entry.creator :: entry.users).map some = seats.map (roster.users[·]?)
  /-- Nobody is in the entry more often than in the roster. -/
  count_le : ∀ user,
    (entry.creator :: entry.users).count user ≤ roster.users.toList.count user
  /-- A creator with one seat does not invite itself. -/
  creator_not_mem : roster.users.toList.count entry.creator ≤ 1 → entry.creator ∉ entry.users
  /-- A user with one seat is not invited twice. -/
  count_users_le : ∀ user, roster.users.toList.count user ≤ 1 → entry.users.count user ≤ 1

/-- An entry lists the members of the room that it is made for. -/
lemma CreationEntry.members_of_ofRoom? {room : Room} {entry : CreationEntry}
    (h : ofRoom? room = some entry) : room.members = entry.creator :: entry.users := by
  obtain ⟨name, members⟩ := room
  cases members with
  | nil => cases h
  | cons creator users =>
    obtain rfl := Option.some.inj h
    rfl

lemma CreationEntry.Drawn.of_seated {roster : Roster} {index : Nat} {size : RoomSize} {room : Room}
    {entry : CreationEntry} (hseat : Seated roster index size room)
    (hentry : ofRoom? room = some entry) : Drawn roster entry := by
  have hmembers := members_of_ofRoom? hentry
  have hcount : ∀ user,
      (entry.creator :: entry.users).count user ≤ roster.users.toList.count user :=
    fun user => hmembers ▸ hseat.subperm.count_le user
  refine ⟨?_, hcount, ?_, ?_⟩
  · obtain ⟨seats, -, hnodup, hlt, husers⟩ := hseat.exists_seats
    exact ⟨seats, hnodup, hlt, hmembers ▸ husers⟩
  · intro hone hmem
    have htwice := hcount entry.creator
    rw [List.count_cons_self] at htwice
    have := List.count_pos_iff.mpr hmem
    omega
  · intro user hone
    exact List.count_le_count_cons.trans ((hcount user).trans hone)

variable {σ : Type} [Generator σ]

/-- Whatever rooms are generated for a roster, the creator and the users of each entry of their
manifest are drawn from distinct seats; so over a roster without repeated users no creator invites
itself, and nobody is invited twice. -/
theorem entries_drawn_of_generate {roster : Roster} {g g' : σ} {generation : Generation}
    (h : generate roster g = some (generation, g')) :
    ∃ rooms : List Room, generation.seating.toExcept = .ok rooms ∧
      (∀ entry ∈ (Manifest.ofRooms rooms).creators, entry.Drawn roster) ∧
      (roster.users.toList.Nodup → ∀ entry ∈ (Manifest.ofRooms rooms).creators,
        entry.creator ∉ entry.users ∧ entry.users.Nodup) := by
  obtain ⟨rooms, hrooms, hlength, hseated⟩ := seated_of_generate h
  have hdrawn : ∀ entry ∈ (Manifest.ofRooms rooms).creators, entry.Drawn roster := by
    intro entry hentry
    obtain ⟨room, hroom, hof⟩ := List.mem_filterMap.mp hentry
    obtain ⟨index, size, hseat⟩ := exists_seated_of_mem hlength hseated room hroom
    exact .of_seated hseat hof
  refine ⟨rooms, hrooms, hdrawn, fun hnodup entry hentry => ?_⟩
  have hone := List.nodup_iff_count_le_one.mp hnodup
  exact ⟨(hdrawn entry hentry).creator_not_mem (hone _),
    List.nodup_iff_count_le_one.mpr fun user =>
      (hdrawn entry hentry).count_users_le user (hone user)⟩

/-- A creator with two seats may invite itself, and one with a single seat is invited once. -/
theorem entries_drawn_of_generate_of_three :
    let roster := Roster.ofList ["ann", "bob", "ann"]
    let rooms := [Room.mk "Room 0" ["ann", "bob", "ann"]]
    ∃ generation g', generate roster (KeyStream.ofSeed 4) = some (generation, g') ∧
      generation.seating.toExcept = .ok rooms ∧
      ∀ entry ∈ (Manifest.ofRooms rooms).creators, entry.users.count "bob" ≤ 1 := by
  intro roster rooms
  have hseating : (generate roster (KeyStream.ofSeed 4)).map (·.1.seating) =
      some ⟨rooms.toArray, none⟩ := by decide +kernel
  obtain ⟨⟨generation, g'⟩, hgenerate, hseated⟩ := Option.map_eq_some_iff.mp hseating
  have hrooms : generation.seating.toExcept = .ok rooms := congrArg Seating.toExcept hseated
  obtain ⟨found, hfound, hdrawn, -⟩ := entries_drawn_of_generate hgenerate
  obtain rfl : rooms = found := Except.ok.inj (hrooms.symm.trans hfound)
  exact ⟨generation, g', hgenerate, hrooms, fun entry hentry =>
    (hdrawn entry hentry).count_users_le "bob" (by decide)⟩

/-- Where one user has all seats, the creator of a room invites itself, and does so twice. -/
theorem repeated_user_invites_itself :
    ∃ roster generation g' rooms,
      Roster.ofCsv "username\nann\nann\nann\n" = .ok roster ∧
      generate roster (KeyStream.ofSeed 4) = some (generation, g') ∧
      generation.seating.toExcept = .ok rooms ∧
      ∃ entry ∈ (Manifest.ofRooms rooms).creators,
        entry.creator ∈ entry.users ∧ ¬entry.users.Nodup := by
  set roster := Roster.ofList ["ann", "ann", "ann"]
  set rooms := [Room.mk "Room 0" ["ann", "ann", "ann"]]
  have hread : (Roster.ofCsv "username\nann\nann\nann\n").toOption = some roster := by
    decide +kernel
  have hseating : (generate roster (KeyStream.ofSeed 4)).map (·.1.seating) =
      some ⟨rooms.toArray, none⟩ := by decide +kernel
  obtain ⟨⟨generation, g'⟩, hgenerate, hseated⟩ := Option.map_eq_some_iff.mp hseating
  have hrooms : generation.seating.toExcept = .ok rooms := congrArg Seating.toExcept hseated
  rcases hroster : Roster.ofCsv "username\nann\nann\nann\n" with e | found
  · rw [hroster] at hread
    cases hread
  · rw [hroster] at hread
    obtain rfl : found = roster := Option.some.inj hread
    exact ⟨_, generation, g', rooms, rfl, hgenerate, hrooms,
      ⟨"ann", "Room 0", ["ann", "ann"]⟩, by decide, by decide, by decide⟩

end RoomDraw
