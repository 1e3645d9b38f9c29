import RoomDraw.Host
import RoomDraw.Roster.Decoding

/-!
# Loading a roster

Reads a roster from a file. Every user is reported when it is decoded, also where a later row is
wrong.
-/

namespace RoomDraw

variable {m : Type → Type} [Monad m] {D : Type}

namespace Roster

def openFile (host : Host m D) (path : Path) : m (Except RosterError Feed) := do
  match path.fileName? with
  | none => return .error (.unreadable path "roster path must be a file")
  | some name =>
    match ← host.openParent path with
    | .error message => return .error (.unreadable path message)
    | .ok directory =>
      match ← host.openFile directory name with
      | .error message => return .error (.unreadable path message)
      | .ok feed => return .ok feed

/-- Loads the roster from the file that a path names. -/
def load (host : Host m D) (path : Path) : m (Except RosterError Roster) := do
  match ← openFile host path with
  | .error e => return .error e
  | .ok feed =>
    let decoding := decode feed
    host.reportAll (decoding.users.toList.map .foundUser)
    return decoding.toExcept

end Roster

end RoomDraw
