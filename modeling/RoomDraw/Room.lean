/-!
# Rooms

A room has a name and its members, in the order in which they were drawn. The first member creates
the room and invites the others.
-/

namespace RoomDraw

structure Room where
  name : String
  members : List String
deriving DecidableEq, Repr

namespace Room

/-- The room generated at a place in the sequence of rooms. -/
def numbered (index : Nat) (members : List String) : Room := ⟨s!"Room {index}", members⟩

/-- The number of members. -/
def size (r : Room) : Nat := r.members.length

/-- The first member; a room without members has no creator. -/
def creator? (r : Room) : Option String := r.members.head?

/-- The members after the first. -/
def invitees (r : Room) : List String := r.members.tail

/-- The room with every member replaced by another. -/
def map (f : String → String) (r : Room) : Room := { r with members := r.members.map f }

@[simp] theorem size_map (f : String → String) (r : Room) : (r.map f).size = r.size := by
  simp [map, size]

@[simp] theorem creator?_map (f : String → String) (r : Room) :
    (r.map f).creator? = r.creator?.map f := by
  simp [map, creator?]

@[simp] theorem invitees_map (f : String → String) (r : Room) :
    (r.map f).invitees = r.invitees.map f := by
  simp [map, invitees]

end Room

end RoomDraw
