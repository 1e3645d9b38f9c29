import RoomDraw.Proofs.Seating
import RoomDraw.Proofs.Size

/-!
# Generation never fails

The sizes drawn for a roster are cut down to its number of seats, so that no room is too large and
the seating of a generation has no error. Every room holds a creator and one invitee at least.
-/

namespace RoomDraw

lemma Seated.two_le_length {roster : Roster} {index : Nat} {size : RoomSize} {room : Room}
    (h : Seated roster index size room) : 2 ≤ room.members.length := by
  have hsize : room.members.length = size.value := h.size_eq
  rw [hsize]
  exact size.two_le

variable {σ : Type} [Generator σ]

/-- A generation draws its sizes first, and seats users with the generator that is left. -/
lemma generate_eq (roster : Roster) (g : σ) :
    generate roster g =
      (seat roster (drawSizes roster.size roster.size g).1
        (drawSizes roster.size roster.size g).2).map
        fun r => (⟨(drawSizes roster.size roster.size g).1, r.1⟩, r.2) := by
  rcases hdraw : drawSizes roster.size roster.size g with ⟨sizes, g₁⟩
  simp only [generate, settled, Draw?.bind_apply, hdraw, Option.bind_some]
  cases seat roster sizes g₁ <;> rfl

lemma seat_of_generate {roster : Roster} {g g' : σ} {generation : Generation}
    (h : generate roster g = some (generation, g')) :
    generation.sizes = (drawSizes roster.size roster.size g).1 ∧
      seat roster generation.sizes (drawSizes roster.size roster.size g).2 =
        some (generation.seating, g') := by
  rw [generate_eq, Option.map_eq_some_iff] at h
  obtain ⟨r, hseat, hr⟩ := h
  obtain ⟨rfl, rfl⟩ := Prod.mk.inj hr
  exact ⟨rfl, hseat⟩

/-- A generation seats a room for each size that was drawn, in order. -/
lemma seated_of_generate {roster : Roster} {g g' : σ} {generation : Generation}
    (h : generate roster g = some (generation, g')) :
    ∃ rooms : List Room, generation.seating.toExcept = .ok rooms ∧
      rooms.length = generation.sizes.length ∧
      ∀ k (hk : k < generation.sizes.length), ∃ room, rooms[k]? = some room ∧
        Seated roster k generation.sizes[k] room := by
  obtain ⟨hsizes, hseat⟩ := seat_of_generate h
  refine seated_of_seat ?_ hseat
  rw [hsizes]
  exact drawSizes_le roster.size roster.size g

/-- So it has rooms, and somebody is in every room. -/
lemma exists_rooms_of_generate {roster : Roster} {g g' : σ} {generation : Generation}
    (h : generate roster g = some (generation, g')) :
    ∃ rooms : List Room, generation.seating.toExcept = .ok rooms ∧
      ∀ room ∈ rooms, room.members ≠ [] := by
  obtain ⟨rooms, hrooms, hlength, hseated⟩ := seated_of_generate h
  refine ⟨rooms, hrooms, fun room hroom hnil => ?_⟩
  obtain ⟨index, size, hseat⟩ := exists_seated_of_mem hlength hseated room hroom
  have := hseat.two_le_length
  simp [hnil] at this

end RoomDraw
