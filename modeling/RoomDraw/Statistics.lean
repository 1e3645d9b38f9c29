import RoomDraw.Membership
import RoomDraw.Number.Decimal
import RoomDraw.Roster.Basic

/-!
# Statistics of rooms

A summary of how the rooms fill: how many there are, the range of their sizes, and how many seats of
the roster are in none of them, in all of them, and in more of them than a threshold. Every seat is
classified on its own, so that a user with two seats counts twice.
-/

namespace RoomDraw

/-- The range of the sizes of one room or more. -/
structure SizeRange where
  max : Nat
  min : Nat
  average : Binary
deriving DecidableEq, Repr

namespace SizeRange

/-- The quotient of two natural numbers, each taken to double precision before they are divided. -/
def mean (total count : Nat) : Binary :=
  .div .double (.ofNat .double total) (.ofNat .double count)

/-- The range of the sizes of rooms. No rooms have none. -/
def ofRooms (rooms : List Room) : Option SizeRange :=
  let sizes := rooms.map Room.size
  match sizes.max?, sizes.min? with
  | some max, some min => some ⟨max, min, mean (sizes.foldr (· + ·) 0) sizes.length⟩
  | _, _ => none

end SizeRange

/-- The summary of rooms. -/
structure Statistics where
  roomCount : Nat
  sizes : Option SizeRange
  /-- Seats of users who are in no room. -/
  roomless : Nat
  /-- Seats of users who are in every room; none if there is no room. -/
  inAllRooms : Nat
  /-- Seats of users who are in more rooms than the threshold. -/
  centurions : Nat
  centurionThreshold : Nat
deriving DecidableEq, Repr

namespace Statistics

/-- The threshold of centurions unless another is given. -/
def defaultThreshold : Nat := 99

/-- The number of seats whose user has a number of memberships with a property. -/
def seatsWhere (roster : Roster) (m : Memberships) (property : Nat → Bool) : Nat :=
  roster.users.countP fun user => property (m.get user)

def summarize (roster : Roster) (rooms : List Room) (threshold : Nat) : Statistics :=
  let m := Memberships.ofRooms rooms
  { roomCount := rooms.length
    sizes := SizeRange.ofRooms rooms
    roomless := seatsWhere roster m (· == 0)
    inAllRooms := if rooms.isEmpty then 0 else seatsWhere roster m (· == rooms.length)
    centurions := seatsWhere roster m (threshold < ·)
    centurionThreshold := threshold }

/-! ### The report -/

/-- The line above and below the lines on sizes. -/
def rule : String := "".pushn '#' 35

def sizeLines : Option SizeRange → List String
  | none => ["No rooms generated"]
  | some range =>
    let average := hundredths range.average.ratio.1 range.average.ratio.2
    [s!"Max = {range.max}", s!"Min = {range.min}", "Avg = " ++ hundredthsText average]

def reportLines (s : Statistics) : List String :=
  [rule, s!"{s.roomCount} Total rooms"] ++ sizeLines s.sizes ++
    [rule,
     s!"{s.roomless} users in zero rooms",
     s!"{s.inAllRooms} users in all rooms",
     s!"{s.centurions} users in > {s.centurionThreshold} rooms"]

/-- The report, without a line break at its end. -/
def report (s : Statistics) : String := "\n".intercalate s.reportLines

end Statistics

end RoomDraw
