import RoomDraw.Manifest.Printer
import RoomDraw.Statistics

/-!
# Settings

What a run can be told: where the roster is and where the manifest goes, the seed, the threshold of
centurions, and the layout of the manifest. Each setting may be left out, and has a default then.
-/

namespace RoomDraw

/-- The settings of a run, of which all but the layout may be absent. -/
structure Settings where
  rosterPath : Option Path
  manifestPath : Option Path
  seed : Option UInt64
  centurionThreshold : Option Nat
  pretty : Bool
deriving BEq, Repr

namespace Settings

def default : Settings := ⟨none, none, none, none, false⟩

def roster (s : Settings) : Path := s.rosterPath.getD (.ofString "users.csv")

def manifest (s : Settings) : Path := s.manifestPath.getD (.ofString "rooms.json")

def threshold (s : Settings) : Nat := s.centurionThreshold.getD Statistics.defaultThreshold

def layout (s : Settings) : Layout := if s.pretty then .pretty else .compact

end Settings

end RoomDraw
