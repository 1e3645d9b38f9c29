import RoomDraw.Manifest.Basic
import RoomDraw.Roster.Basic
import RoomDraw.Seating

/-!
# Errors of a run

A run fails with the error of the stage that failed.
-/

namespace RoomDraw

/-- Why a run failed. -/
inductive RunError where
  /-- The settings cannot be loaded. -/
  | config (message : String)
  | roster (error : RosterError)
  | generation (error : GenerationError)
  | manifest (error : ManifestError)
deriving BEq, Repr

namespace RunError

/-- The text of the error of the stage, if the stage has errors of its own. -/
def source? : RunError → Option String
  | config _ => none
  | roster e => some e.message
  | generation e => some e.message
  | manifest e => some e.message

def message : RunError → String
  | config message => s!"configuration error: {message}"
  | roster e => "roster error: " ++ e.message
  | generation e => "generation error: " ++ e.message
  | manifest e => "manifest error: " ++ e.message

end RunError

end RoomDraw
