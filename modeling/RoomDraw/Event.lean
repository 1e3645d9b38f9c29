import RoomDraw.Number.Decimal
import RoomDraw.Path
import RoomDraw.Size.Basic
import RoomDraw.Statistics

/-!
# Events

What a run reports while it goes on. An event has a level, the part of the program it comes from, a
message, and fields with values.
-/

namespace RoomDraw

/-- How much an event matters. -/
inductive Level where
  | error
  | warn
  | info
  | debug
  | trace
deriving DecidableEq, Repr

namespace Level

/-- The rank of a level: the more it matters, the lower it is. -/
def rank : Level → Nat
  | error => 0
  | warn => 1
  | info => 2
  | debug => 3
  | trace => 4

def name : Level → String
  | error => "ERROR"
  | warn => "WARN"
  | info => "INFO"
  | debug => "DEBUG"
  | trace => "TRACE"

end Level

/-- What a run reports. -/
inductive Event where
  /-- A user was read from the roster. -/
  | foundUser (user : String)
  /-- The roster was read to its end. -/
  | loadedRoster (path : Path) (users : Nat)
  /-- The generator starts from a seed. -/
  | seeded (seed : UInt64)
  /-- A draw is a size that rooms can have. -/
  | acceptedSize (size : RoomSize)
  | assignedMembers (room : String) (size : Nat)
  /-- No draw was a size that rooms can have. -/
  | noRooms (users : Nat)
  | wroteManifest (path : Path) (rooms : Nat)
  | roomSizes (rooms : Nat) (sizes : Option SizeRange)
  | membership (roomless inAllRooms centurions threshold : Nat)
deriving BEq, Repr

inductive FieldValue where
  | natural (n : Nat)
  | real (x : Binary)
  /-- A text that is shown as it is. -/
  | plain (s : String)
  /-- A text that is shown between quotes where other fields surround it. -/
  | text (s : String)
deriving DecidableEq, Repr

namespace Event

def level : Event → Level
  | noRooms _ => .warn
  | assignedMembers _ _ => .debug
  | _ => .info

/-- The part of the program that reports the event. -/
def part : Event → String
  | foundUser _ => "roster"
  | acceptedSize _ => "sizing"
  | assignedMembers _ _ => "assignment"
  | wroteManifest _ _ => "manifest"
  | loadedRoster _ _ | seeded _ | noRooms _ | roomSizes _ _ | membership _ _ _ _ => "pipeline"

def message : Event → String
  | foundUser _ => "found user"
  | loadedRoster _ _ => "loaded roster"
  | seeded _ => "seeding room generator"
  | acceptedSize _ => "accepted room size"
  | assignedMembers _ _ => "assigned room members"
  | noRooms _ => "no rooms generated"
  | wroteManifest _ _ => "wrote room manifest"
  | roomSizes _ _ => "room sizes"
  | membership _ _ _ _ => "room membership"

def fields : Event → List (String × FieldValue)
  | foundUser user => [("username", .plain user)]
  | loadedRoster path users => [("path", .plain path.display), ("users", .natural users)]
  | seeded seed => [("seed", .natural seed.toNat)]
  | acceptedSize size => [("size", .natural size.value)]
  | assignedMembers room size => [("room", .text room), ("size", .natural size)]
  | noRooms users => [("users", .natural users)]
  | wroteManifest path rooms => [("path", .plain path.display), ("rooms", .natural rooms)]
  | roomSizes _ none => [("rooms", .natural 0)]
  | roomSizes rooms (some range) =>
    [("rooms", .natural rooms), ("max", .natural range.max), ("min", .natural range.min),
     ("average", .real range.average)]
  | membership roomless inAllRooms centurions threshold =>
    [("roomless", .natural roomless), ("in_all_rooms", .natural inAllRooms),
     ("centurions", .natural centurions), ("centurion_threshold", .natural threshold)]

def ofRoom (r : Room) : Event := assignedMembers r.name r.size

def ofStatistics (s : Statistics) : List Event :=
  [roomSizes s.roomCount s.sizes,
   membership s.roomless s.inAllRooms s.centurions s.centurionThreshold]

end Event

end RoomDraw
