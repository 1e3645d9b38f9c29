import RoomDraw.Room
import RoomDraw.Roster.Basic
import RoomDraw.Seat.Selection
import RoomDraw.Size.Pareto

/-!
# Seating users in rooms

Every room draws its members from the whole roster, one room after the other, so that a user may
be in many rooms but no seat is twice in one. A size above the number of seats ends the seating
before anything is drawn for it.
-/

namespace RoomDraw

/-- Why rooms cannot be generated. -/
inductive GenerationError where
  /-- The size distribution does not exist. -/
  | invalidDistribution (message : String)
  /-- A room is to have more members than there are seats. -/
  | roomTooLarge (index size available : Nat)
deriving DecidableEq, Repr

def GenerationError.message : GenerationError → String
  | .invalidDistribution message => s!"invalid room size distribution: {message}"
  | .roomTooLarge index size available =>
    s!"room {index} has size {size} but only {available} users are available"

/-- The rooms seated, and the error that ended the seating early, if any. -/
structure Seating where
  rooms : Array Room
  error : Option GenerationError
deriving DecidableEq, Repr

namespace Seating

/-- All rooms, if there was no error. -/
def toExcept (s : Seating) : Except GenerationError (List Room) :=
  match s.error with
  | none => .ok s.rooms.toList
  | some e => .error e

end Seating

variable {σ : Type} [Generator σ]

/-- The room at a place in the sequence, with so many members drawn from the roster. -/
def drawRoom (roster : Roster) (index : Nat) (size : RoomSize) : Draw? σ Room := do
  return .numbered index (roster.usersAt (← selectSeats roster.size size.value))

/-- Seats users in rooms of the given sizes, after the rooms seated already. Every room is drawn in
the given way, from so many seats. -/
def seatRoomsBy {n : Type → Type} [Monad n] (draw : Nat → RoomSize → n Room) (seats : Nat) :
    Array Room → List RoomSize → n Seating
  | rooms, [] => return ⟨rooms, none⟩
  | rooms, size :: sizes =>
    if seats < size.value then
      return ⟨rooms, some (.roomTooLarge rooms.size size.value seats)⟩
    else do
      seatRoomsBy draw seats (rooms.push (← draw rooms.size size)) sizes

/-- Seats users in rooms of the given sizes, after the rooms seated already. -/
def seatRooms (roster : Roster) : Array Room → List RoomSize → Draw? σ Seating :=
  seatRoomsBy (drawRoom roster) roster.size

/-- Seats users in one room for each size. -/
def seat (roster : Roster) (sizes : List RoomSize) : Draw? σ Seating := seatRooms roster #[] sizes

/-- The sizes drawn for a roster, and the users seated in rooms of these sizes. -/
structure Generation where
  sizes : List RoomSize
  seating : Seating
deriving DecidableEq, Repr

/-- Draws sizes, with as many attempts as there are seats, and seats users in rooms of these
sizes with the generator that is left. -/
def generate (roster : Roster) : Draw? σ Generation := do
  let sizes ← settled (drawSizes roster.size roster.size)
  return ⟨sizes, ← seat roster sizes⟩

end RoomDraw
