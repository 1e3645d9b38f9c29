import RoomDraw.Path

/-!
# Rosters

The users that rooms are drawn from, in order. A user listed twice has two seats.
-/

namespace RoomDraw

/-- The seats of a roster, each taken by a user. -/
structure Roster where
  users : Array String
deriving DecidableEq, Repr, Inhabited

namespace Roster

/-- The roster without seats. -/
def empty : Roster := ⟨#[]⟩

def ofList (users : List String) : Roster := ⟨users.toArray⟩

/-- The number of seats. -/
def size (r : Roster) : Nat := r.users.size

def isEmpty (r : Roster) : Bool := r.users.isEmpty

/-- The users at the given seats, in that order. Seats that do not exist hold nobody. -/
def usersAt (r : Roster) (seats : List Nat) : List String := seats.filterMap (r.users[·]?)

/-- The roster with every user replaced by another. -/
def map (f : String → String) (r : Roster) : Roster := ⟨r.users.map f⟩

@[simp] theorem size_map (f : String → String) (r : Roster) : (r.map f).size = r.size := by
  simp [map, size]

/-- The column that names the users. -/
def usernameColumn : String := "username"

end Roster

/-- Why a roster cannot be loaded. -/
inductive RosterError where
  /-- The file cannot be opened. -/
  | unreadable (path : Path) (message : String)
  /-- The header names no column of users. -/
  | missingColumn
  /-- A row is wrong, or reading stopped. The line is that of the record, and zero if it is not
  known. -/
  | badRow (line : Nat) (message : String)
deriving BEq, Repr

def RosterError.message : RosterError → String
  | .unreadable path message => s!"failed to read roster file at '{path.display}': {message}"
  | .missingColumn => s!"roster is missing the required '{Roster.usernameColumn}' column"
  | .badRow line message => s!"invalid roster row at line {line}: {message}"

end RoomDraw
