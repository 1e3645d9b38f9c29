import RoomDraw.Generator.KeyStream
import RoomDraw.Manifest.Basic
import RoomDraw.Proofs.Generation
import RoomDraw.Proofs.Seating.Plan

/-!
# Names of users make no difference

Generating rooms for a roster draws a plan of seats, and who sits there is read off the roster
afterwards. So every step commutes with the renaming of users, whether or not two of them get the
same name, and rosters of one size have rooms with the same seats.
-/

namespace RoomDraw

/-! ### Renaming -/

/-- Seats are read off the renamed roster as the renamed users at them. -/
lemma Roster.usersAt_map (f : String → String) (roster : Roster) (seats : List Nat) :
    (roster.map f).usersAt seats = (roster.usersAt seats).map f := by
  simp [usersAt, map, List.map_filterMap]

lemma Room.map_numbered (f : String → String) (index : Nat) (members : List String) :
    (Room.numbered index members).map f = .numbered index (members.map f) := rfl

lemma Roster.roomsAt_map (f : String → String) (roster : Roster) (start : Nat)
    (plan : List (List Nat)) :
    (roster.map f).roomsAt start plan = (roster.roomsAt start plan).map (Room.map f) := by
  induction plan generalizing start with
  | nil => rfl
  | cons seats plan ih =>
    rw [roomsAt_cons, roomsAt_cons, List.map_cons, Room.map_numbered, usersAt_map, ih]

lemma CreationEntry.ofRoom?_map (f : String → String) (room : Room) :
    ofRoom? (room.map f) = (ofRoom? room).map (CreationEntry.map f) := by
  obtain ⟨name, members⟩ := room
  cases members <;> rfl

lemma Manifest.ofRooms_map (f : String → String) (rooms : List Room) :
    ofRooms (rooms.map (Room.map f)) = (ofRooms rooms).map f := by
  simp [ofRooms, map, List.filterMap_map, List.map_filterMap, CreationEntry.ofRoom?_map]

/-- The seating with every user replaced by another. -/
def Seating.map (f : String → String) (s : Seating) : Seating :=
  { s with rooms := s.rooms.map (Room.map f) }

lemma Seating.toExcept_map (f : String → String) (s : Seating) :
    (s.map f).toExcept = s.toExcept.map (List.map (Room.map f)) := by
  obtain ⟨rooms, error⟩ := s
  cases error <;> simp [map, toExcept, Except.map]

/-- The generation with every user replaced by another. -/
def Generation.map (f : String → String) (generation : Generation) : Generation :=
  { generation with seating := generation.seating.map f }

/-! ### Rosters of one size -/

/-- A room of one roster and a room of another, with one name, whose members sit at the same
seats. -/
structure SameSeats (roster other : Roster) (room counterpart : Room) : Prop where
  name_eq : counterpart.name = room.name
  exists_seats : ∃ seats : List Nat, (∀ seat ∈ seats, seat < roster.size) ∧
    room.members.map some = seats.map (roster.users[·]?) ∧
    counterpart.members.map some = seats.map (other.users[·]?)

/-- Rooms of a plan have the same seats, whatever roster their members are read off. -/
lemma sameSeats_roomsAt {roster other : Roster} (hsize : other.size = roster.size) (start : Nat)
    {plan : List (List Nat)} (hplan : ∀ seats ∈ plan, ∀ seat ∈ seats, seat < roster.size) :
    List.Forall₂ (SameSeats roster other) (roster.roomsAt start plan)
      (other.roomsAt start plan) := by
  induction plan generalizing start with
  | nil => exact .nil
  | cons seats plan ih =>
    have hseats := hplan seats List.mem_cons_self
    rw [Roster.roomsAt_cons, Roster.roomsAt_cons]
    constructor
    · exact ⟨rfl, seats, hseats, Roster.map_some_usersAt hseats,
        Roster.map_some_usersAt (hsize ▸ hseats)⟩
    · exact ih (start + 1) fun s hs => hplan s (List.mem_cons_of_mem seats hs)

/-! ### Generation -/

variable {σ : Type} [Generator σ]

/-- A generation draws sizes and a plan for them, both for the number of seats. -/
lemma generate_eq_drawPlan (roster : Roster) (g : σ) :
    generate roster g =
      (drawPlan roster.size (drawSizes roster.size roster.size g).1
        (drawSizes roster.size roster.size g).2).map fun r =>
          (⟨(drawSizes roster.size roster.size g).1, (roster.roomsAt 0 r.1).toArray, none⟩,
            r.2) := by
  rw [generate_eq, seat_eq_drawPlan (drawSizes_le roster.size roster.size g), Option.map_map]
  rfl

lemma generate_map (f : String → String) (roster : Roster) (g : σ) :
    generate (roster.map f) g = (generate roster g).map fun r => (r.1.map f, r.2) := by
  rw [generate_eq_drawPlan, generate_eq_drawPlan, Roster.size_map, Option.map_map]
  congr 1
  funext r
  simp [Generation.map, Seating.map, Roster.roomsAt_map]

/-- Generating rooms for renamed users gives the rooms of the users, renamed, and leaves the same
generator; so it does with the manifest. For any other roster of the same size it gives rooms with
the same names and seats. -/
theorem generate_renames (roster : Roster) (g : σ) :
    (∀ f : String → String,
      generate (roster.map f) g = (generate roster g).map fun r => (r.1.map f, r.2)) ∧
    ∀ generation g', generate roster g = some (generation, g') →
      ∃ rooms, generation.seating.toExcept = .ok rooms ∧
        (∀ f : String → String,
          (generation.map f).seating.toExcept = .ok (rooms.map (Room.map f)) ∧
          Manifest.ofRooms (rooms.map (Room.map f)) = (Manifest.ofRooms rooms).map f) ∧
        ∀ other : Roster, other.size = roster.size → ∃ seating counterparts,
          generate other g = some (⟨generation.sizes, seating⟩, g') ∧
          seating.toExcept = .ok counterparts ∧
          List.Forall₂ (SameSeats roster other) rooms counterparts := by
  refine ⟨fun f => generate_map f roster g, ?_⟩
  intro generation g' h
  rw [generate_eq_drawPlan] at h
  obtain ⟨⟨plan, g₁⟩, hplan, h⟩ := Option.map_eq_some_iff.mp h
  obtain ⟨rfl, rfl⟩ := Prod.mk.inj h
  refine ⟨roster.roomsAt 0 plan, rfl, ?_, ?_⟩
  · intro f
    refine ⟨?_, Manifest.ofRooms_map f _⟩
    rw [Generation.map, Seating.toExcept_map]
    rfl
  · intro other hsize
    refine ⟨⟨(other.roomsAt 0 plan).toArray, none⟩, other.roomsAt 0 plan, ?_, rfl, ?_⟩
    · rw [generate_eq_drawPlan, hsize, hplan]
      rfl
    · refine sameSeats_roomsAt hsize 0 ?_
      exact lt_of_drawPlan (drawSizes_le roster.size roster.size g) hplan

/-- Two users who get one name stay two, and others in their place sit at the same seats. -/
theorem generate_renames_of_three :
    let roster := Roster.ofList ["ann", "bob", "cid"]
    let merge : String → String := fun user => if user = "cid" then "ann" else user
    let other := Roster.ofList ["dan", "eve", "dan"]
    ∃ generation g', generate roster (KeyStream.ofSeed 4) = some (generation, g') ∧
      generation.seating.toExcept = .ok [⟨"Room 0", ["cid", "bob", "ann"]⟩] ∧
      (∃ renamed, generate (roster.map merge) (KeyStream.ofSeed 4) = some (renamed, g') ∧
        renamed.seating.toExcept = .ok [⟨"Room 0", ["ann", "bob", "ann"]⟩]) ∧
      ∃ seating room, generate other (KeyStream.ofSeed 4) = some (⟨generation.sizes, seating⟩, g') ∧
        seating.toExcept = .ok [room] ∧
        SameSeats roster other ⟨"Room 0", ["cid", "bob", "ann"]⟩ room := by
  intro roster merge other
  have hseating : (generate roster (KeyStream.ofSeed 4)).map (·.1.seating) =
      some ⟨#[⟨"Room 0", ["cid", "bob", "ann"]⟩], none⟩ := by decide +kernel
  obtain ⟨⟨generation, g'⟩, hgenerate, hseated⟩ := Option.map_eq_some_iff.mp hseating
  have hrooms : generation.seating.toExcept = .ok [⟨"Room 0", ["cid", "bob", "ann"]⟩] :=
    congrArg Seating.toExcept hseated
  obtain ⟨hrename, hresult⟩ := generate_renames roster (KeyStream.ofSeed 4)
  obtain ⟨rooms, hfound, hmap, hother⟩ := hresult generation g' hgenerate
  obtain rfl := Except.ok.inj (hrooms.symm.trans hfound)
  refine ⟨generation, g', hgenerate, hrooms, ⟨generation.map merge, ?_, (hmap merge).1⟩, ?_⟩
  · rw [hrename, hgenerate]
    rfl
  · obtain ⟨seating, counterparts, hcounterparts, hok, hsame⟩ := hother other rfl
    obtain ⟨room, others, hroom, hnil, rfl⟩ := List.forall₂_cons_left_iff.mp hsame
    rw [List.forall₂_nil_left_iff.mp hnil] at hok
    exact ⟨seating, room, hcounterparts, hok, hroom⟩

end RoomDraw
