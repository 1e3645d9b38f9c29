import RoomDraw.Settings.Literal

/-!
# Settings in the environment

Variables whose names begin with `ROOM_SEED_`, in any case, set what the rest of the name says.
-/

namespace RoomDraw

/-- The names and values of variables. -/
abbrev Environment := List (String × String)

namespace Environment

/-- The value of a variable. -/
def get (e : Environment) (name : String) : Option String := e.lookup name

/-- What the names of variables for settings begin with. -/
def marker : List Char := "room_seed_".toList

/-- The parts of the name of a setting: two underscores or a dot lead into a table. -/
def parts : List Char → List (List Char)
  | [] => [[]]
  | '_' :: '_' :: s => [] :: parts s
  | '.' :: s => [] :: parts s
  | c :: s =>
    match parts s with
    | [] => [[c]]
    | p :: ps => (c :: p) :: ps

/-- The setting that a variable is for, as a key and whether it leads into a table. White space
around the name and behind the marker does not count. A name with an empty part is for no
setting. -/
def target? (name : String) : Option (String × Bool) :=
  let lower := (Literal.trim name.toList).map Char.toLower
  if marker.isPrefixOf lower then
    match parts (Literal.trim (lower.drop marker.length)) with
    | [] => none
    | k :: ks => if (k :: ks).any List.isEmpty then none else some (.ofList k, !ks.isEmpty)
  else none

/-- What a variable says about a setting. -/
def says? (s : Setting) (name value : String) : Option RawValue :=
  match target? name with
  | some (key, into) =>
    if key = s.key then some (if into then .other else Literal.read value) else none
  | none => none

/-- The layer of the environment. Of several variables for a setting the last counts. -/
def layer (e : Environment) : Layer := fun s =>
  e.foldl (fun found (name, value) => (says? s name value).or found) none

end Environment

end RoomDraw
