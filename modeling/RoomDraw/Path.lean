import RoomDraw.Text.Utf8

/-!
# Paths

A path is a byte string in which slashes separate names. Two paths are equal when their
components are: repeated and trailing slashes do not count, nor does a dot except at the front.
-/

namespace RoomDraw

inductive Component where
  | root
  | here
  | up
  | name (bytes : Bytes)
deriving DecidableEq, Repr

/-- Whether a component holds the byte that no path can hold. -/
def Component.holdsNul : Component → Bool
  | .name bytes => bytes.contains 0
  | _ => false

structure Path where
  bytes : Bytes
deriving Repr, Inhabited

namespace Path

def slash : UInt8 := 0x2F

def dot : UInt8 := 0x2E

theorem encode_dot : Utf8.encode "." = [dot] := rfl

/-- The path that a text spells. -/
def ofString (s : String) : Path := ⟨Utf8.encode s⟩

/-- The text of a path that is well-formed UTF-8. -/
def text? (p : Path) : Option String := Utf8.decode? p.bytes

/-- The path as it is shown in messages. -/
def display (p : Path) : String := Utf8.lossy p.bytes

/-- Whether the path begins at the root. -/
def isAbsolute (p : Path) : Bool := p.bytes.head? == some slash

/-- What stands between the slashes, empty pieces included. -/
def pieces (p : Path) : List Bytes := p.bytes.splitOn slash

/-- The component that a piece between slashes stands for, if it counts. -/
def component? (piece : Bytes) : Option Component :=
  if piece = [] ∨ piece = [dot] then none
  else if piece = [dot, dot] then some .up
  else some (.name piece)

/-- The components: the root of an absolute path, a dot at the front of another, and all names
and double dots. -/
def components (p : Path) : List Component :=
  let front :=
    if p.isAbsolute then [.root]
    else if p.pieces.head? = some [dot] then [.here]
    else []
  front ++ p.pieces.filterMap component?

instance : BEq Path := ⟨fun p q => p.components == q.components⟩

/-- The last component, if it is a name. -/
def fileName? (p : Path) : Option Bytes :=
  match p.components.getLast? with
  | some (.name bytes) => some bytes
  | _ => none

/-- Whether the last piece does not count, so that the path can only lead to a directory. -/
def endsInDirectory (p : Path) : Bool :=
  match p.pieces.getLast? with
  | some piece => piece == [] || piece == [dot]
  | none => false

/-- What stands behind the last dot of the last component, if something stands before that dot. -/
def extension? (p : Path) : Option Bytes := do
  match (← p.fileName?).reverse.span (· != dot) with
  | (ending, _ :: _ :: _) => return ending.reverse
  | _ => none

/-- The path that another path means in a directory. -/
def join (directory p : Path) : Path :=
  if p.isAbsolute ∨ directory.bytes = [] then p
  else if directory.bytes.getLast? = some slash then ⟨directory.bytes ++ p.bytes⟩
  else ⟨directory.bytes ++ slash :: p.bytes⟩

/-- The path that another path means in the directory of this one. -/
def beside (p q : Path) : Path :=
  if q.isAbsolute then q else ⟨(p.bytes.reverse.dropWhile (· != slash)).reverse ++ q.bytes⟩

/-- The path without its last component, by components; empty if there is at most one. -/
def parent (p : Path) : List Component := p.components.dropLast

/-- The number of bytes that are left of a path without its last component, and without the slashes
and dots that do not count before it. -/
def parentLength (p : Path) : Nat :=
  let trimmed (pieces : List Bytes) : List Bytes := pieces.dropWhile (component? · == none)
  let pieces := trimmed (trimmed p.pieces.reverse).tail
  pieces.flatten.length + (pieces.length - 1)

end Path

end RoomDraw
