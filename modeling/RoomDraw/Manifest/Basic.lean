import RoomDraw.Path
import RoomDraw.Room

/-!
# Manifests

A manifest tells who creates each room and whom the creator invites. It holds the same as the rooms
that have a member: `ofRooms` parts the creator from the others, and `rooms` joins them again.
-/

namespace RoomDraw

/-- How one room is created. -/
structure CreationEntry where
  creator : String
  name : String
  users : List String
deriving DecidableEq, Repr

namespace CreationEntry

/-- The entry for a room, if somebody is there to create it. -/
def ofRoom? (r : Room) : Option CreationEntry :=
  r.creator?.map fun creator => ⟨creator, r.name, r.invitees⟩

def room (e : CreationEntry) : Room := ⟨e.name, e.creator :: e.users⟩

@[simp] theorem ofRoom?_room (e : CreationEntry) : ofRoom? e.room = some e := rfl

/-- The entry with every user replaced by another. -/
def map (f : String → String) (e : CreationEntry) : CreationEntry :=
  { e with creator := f e.creator, users := e.users.map f }

end CreationEntry

/-- All rooms to create, in order. -/
structure Manifest where
  creators : List CreationEntry
deriving DecidableEq, Repr

namespace Manifest

/-- The manifest without entries. -/
def empty : Manifest := ⟨[]⟩

/-- The manifest of the rooms that have a member. -/
def ofRooms (rooms : List Room) : Manifest := ⟨rooms.filterMap CreationEntry.ofRoom?⟩

def rooms (m : Manifest) : List Room := m.creators.map CreationEntry.room

/-- The manifest with every user replaced by another. -/
def map (f : String → String) (m : Manifest) : Manifest := ⟨m.creators.map (.map f)⟩

end Manifest

/-- Why a manifest cannot be written or read. -/
inductive ManifestError where
  /-- The manifest has no text. -/
  | unprintable (message : String)
  /-- The text is no manifest. -/
  | malformed (message : String)
  /-- The file cannot be written. -/
  | unwritable (path : Path) (message : String)
  /-- The name of the file is no text. -/
  | notText (path : Path)
deriving BEq, Repr

def ManifestError.message : ManifestError → String
  | .unprintable message => s!"failed to serialize manifest: {message}"
  | .malformed message => s!"invalid manifest JSON: {message}"
  | .unwritable path message => s!"failed to write manifest file at '{path.display}': {message}"
  | .notText path => s!"manifest path is not valid UTF-8: '{path.display}'"

end RoomDraw
