import RoomDraw.Generator.KeyStream
import RoomDraw.Manifest.Saving
import RoomDraw.Roster.Loading
import RoomDraw.Run.Error
import RoomDraw.Settings.Basic

/-!
# Runs

A run loads the roster, draws sizes and members with one generator, saves the manifest, and
summarizes the rooms. A stage that fails ends the run, and only the last but one writes anything.
-/

namespace RoomDraw

structure RunOutcome where
  seed : UInt64
  manifestPath : Path
  statistics : Statistics
deriving BEq, Repr

/-- How a run ends. -/
inductive RunEnd where
  | completed (outcome : RunOutcome)
  | failed (error : RunError)
  /-- The draw of members saw no end. -/
  | endless
deriving BEq, Repr

variable {m : Type → Type} [Monad m] {D : Type}

namespace Run

def seedOf (host : Host m D) (s : Settings) : m UInt64 :=
  match s.seed with
  | some seed => return seed
  | none => host.freshSeed

/-- Draws the room at a place in the sequence, and reports it once it is drawn. -/
def drawRoom (host : Host m D) (roster : Roster) (index : Nat) (size : RoomSize) :
    StateT KeyStream (OptionT m) Room := fun g => OptionT.mk do
  match RoomDraw.drawRoom roster index size g with
  | none => return none
  | some (room, g) =>
    host.report (.ofRoom room)
    return some (room, g)

/-- The last stages: saves the manifest of the rooms and summarizes them. -/
def conclude (host : Host m D) (s : Settings) (seed : UInt64) (roster : Roster)
    (rooms : List Room) : m RunEnd := do
  if rooms.isEmpty then host.report (.noRooms roster.size)
  match ← (Manifest.ofRooms rooms).save host s.manifest s.layout with
  | .error e => return .failed (.manifest e)
  | .ok () =>
    let statistics := Statistics.summarize roster rooms s.threshold
    host.reportAll (Event.ofStatistics statistics)
    return .completed ⟨seed, s.manifest, statistics⟩

end Run

/-- Runs with the given settings. -/
def run (host : Host m D) (s : Settings) : m RunEnd := do
  match ← Roster.load host s.roster with
  | .error e => return .failed (.roster e)
  | .ok roster =>
    host.report (.loadedRoster s.roster roster.size)
    let seed ← Run.seedOf host s
    host.report (.seeded seed)
    let (sizes, g) := drawSizes roster.size roster.size (KeyStream.ofSeed seed)
    host.reportAll (sizes.map .acceptedSize)
    match ← (seatRoomsBy (Run.drawRoom host roster) roster.size #[] sizes).run g with
    | none => return .endless
    | some (seating, _) =>
      match seating.toExcept with
      | .error e => return .failed (.generation e)
      | .ok rooms => Run.conclude host s seed roster rooms

end RoomDraw
