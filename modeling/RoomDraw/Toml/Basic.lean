/-!
# Tables of TOML

A document is a table of keys and values. How a table came to be decides how it may be added to:
a table that a header opened is complete, one that was only passed through can still be opened, and
one made by a dotted key takes more dotted keys in the same section.
-/

namespace RoomDraw

namespace Toml

/-- An edition of the language. The later one has more escapes in strings, times without seconds,
inline tables over several lines, and commas behind their last value. -/
inductive Edition where
  | v1_0
  | v1_1
deriving DecidableEq, Repr

/-- How many parts a key may have, and how deep arrays and inline tables may be nested. -/
def Edition.limit : Edition → Nat
  | v1_0 => 79
  | v1_1 => 80

/-- A value. Of fractions, dates, arrays and inline tables no more than their form is known. -/
inductive Value where
  | text (s : String)
  | integer (n : Int)
  | boolean (b : Bool)
  /-- A number that is infinite or none at all. -/
  | notFinite
  | other
deriving DecidableEq, Repr

/-- How a table came to be. -/
inductive Origin where
  /-- A header opened it. -/
  | header
  /-- A header of a table in it was the first to name it. -/
  | passage
  /-- A dotted key made it. -/
  | dotted
deriving DecidableEq, Repr

/-- What a key stands for. -/
inductive Item where
  | value (v : Value)
  | table (origin : Origin) (entries : List (String × Item))
  /-- An array of tables, of which only the last can be added to. -/
  | tables (last : List (String × Item))

/-- Keys and what they stand for. -/
abbrev Table := List (String × Item)

namespace Table

def get (t : Table) (key : String) : Option Item := t.lookup key

def set (t : Table) (key : String) (item : Item) : Table :=
  (key, item) :: t.filter (·.1 != key)

/-- Goes down from a table through the tables of the keys, makes those that are missing, and
changes the last. Keys of a dotted key do not go through tables that a header opened. -/
def descend (dotted : Bool) (change : Origin → Table → Option Table) :
    List String → Origin → Table → Option Table
  | [], origin, t => change origin t
  | key :: keys, _, t =>
    match t.get key with
    | none => do
      let origin := if dotted then .dotted else .passage
      return t.set key (.table origin (← descend dotted change keys origin []))
    | some (.value _) => none
    | some (.table origin entries) =>
      if dotted && origin == .header then none
      else do return t.set key (.table origin (← descend dotted change keys origin entries))
    | some (.tables last) => do
      return t.set key (.tables (← descend dotted change keys .header last))

/-- The table with a value for a new key, which stands below the keys of a dotted key. -/
def insert (t : Table) (keys : List String) (key : String) (v : Value) : Option Table :=
  descend true
    (fun origin t =>
      if (origin == .dotted) == keys.isEmpty then none
      else if (t.get key).isSome then none
      else some (t.set key (.value v)))
    keys .header t

/-- The table in which a header has opened the table of a key. -/
def openTable (t : Table) (keys : List String) (key : String) : Option Table :=
  descend false
    (fun _ t =>
      match t.get key with
      | none => some (t.set key (.table .header []))
      | some (.table .passage entries) => some (t.set key (.table .header entries))
      | some _ => none)
    keys .header t

/-- The table in which a header has added one more to the tables of a key. -/
def openElement (t : Table) (keys : List String) (key : String) : Option Table :=
  descend false
    (fun _ t =>
      match t.get key with
      | none | some (.tables _) => some (t.set key (.tables []))
      | some _ => none)
    keys .header t

/-- The table with a value for a new key in the section that a header has opened. -/
def insertBelow (t : Table) (section_ keys : List String) (key : String) (v : Value) :
    Option Table :=
  descend false (fun _ t => t.insert keys key v) section_ .header t

end Table

end Toml

end RoomDraw
