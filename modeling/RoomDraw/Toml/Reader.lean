import RoomDraw.Toml.Scalar

/-!
# Reading TOML

Reads a document as the table of its keys: lines that give values to keys, and headers that say in
which table the following keys stand.
-/

namespace RoomDraw

namespace Toml

/-! ### Space -/

/-- Passes over a comment, up to the end of its line. -/
def skipComment : List Char → Option (List Char)
  | '#' :: s =>
    match s.dropWhile isPlain with
    | [] => some []
    | '\n' :: s => some ('\n' :: s)
    | '\r' :: '\n' :: s => some ('\n' :: s)
    | _ => none
  | s => some s

/-- Passes over the rest of a line that holds nothing more. -/
def endOfLine (s : List Char) : Option (List Char) := do
  match ← skipComment (skipBlanks s) with
  | [] => some []
  | '\n' :: s | '\r' :: '\n' :: s => some s
  | _ => none

/-- Passes over blanks, comments and line breaks, at most so many of them. -/
def skipLines : Nat → List Char → Option (List Char)
  | 0, s => some s
  | bound + 1, s =>
    match skipBlanks s with
    | '\n' :: s | '\r' :: '\n' :: s => skipLines bound s
    | '#' :: s => do skipLines bound (← skipComment ('#' :: s))
    | s => some s

/-- Passes over what may stand between the parts of an inline table. -/
def skipWithin (e : Edition) (bound : Nat) (s : List Char) : Option (List Char) :=
  match e with
  | .v1_0 => some (skipBlanks s)
  | .v1_1 => skipLines bound s

/-! ### Keys -/

/-- Reads a part of a key. -/
def simpleKey (e : Edition) (bound : Nat) : Reader String := fun s =>
  match s with
  | '"' :: s => line e '"' bound [] s
  | '\'' :: s => line e '\'' bound [] s
  | s =>
    let (name, rest) := s.span isKeyChar
    if name.isEmpty then none else some (.ofList name, rest)

/-- Reads a key of at most so many parts: those before its last dot, and the part behind it. -/
def key (e : Edition) (bound : Nat) : Nat → Reader (List String × String)
  | 0, _ => none
  | parts + 1, s => do
    let (k, s) ← simpleKey e bound (skipBlanks s)
    match skipBlanks s with
    | '.' :: s =>
      let ((ks, last), s) ← key e bound parts s
      return ((k :: ks, last), s)
    | s => return (([], k), s)

/-! ### Values -/

mutual

/-- Reads a value, with arrays and inline tables in it at most so deep. -/
def value (e : Edition) (bound depth : Nat) : Reader Value := fun s =>
  match s with
  | '[' :: s =>
    match depth with
    | 0 => none
    | depth + 1 => do
      let ((), s) ← elements e bound depth bound s
      return (.other, s)
  | '{' :: s =>
    match depth with
    | 0 => none
    | depth + 1 => do
      match ← skipWithin e bound s with
      | '}' :: s => return (.other, s)
      | s =>
        let ((), s) ← pairs e bound depth bound [] s
        return (.other, s)
  | '"' :: _ | '\'' :: _ => do
    let (t, s) ← text e bound s
    return (.text t, s)
  | _ => scalar e s
termination_by (depth, 0)

/-- Passes over the rest of an array, from behind the bracket or a comma. -/
def elements (e : Edition) (bound depth : Nat) : Nat → Reader Unit
  | 0, _ => none
  | count + 1, s => do
    match ← skipLines bound s with
    | ']' :: s => return ((), s)
    | s =>
      let (_, s) ← value e bound depth s
      match ← skipLines bound s with
      | ']' :: s => return ((), s)
      | ',' :: s => elements e bound depth count s
      | _ => none
termination_by count _ => (depth, count + 1)

/-- Passes over the rest of an inline table, from its next key on. -/
def pairs (e : Edition) (bound depth : Nat) : Nat → Table → Reader Unit
  | 0, _, _ => none
  | count + 1, t, s => do
    let ((ks, k), s) ← key e bound e.limit s
    match ← skipWithin e bound s with
    | '=' :: s =>
      let (v, s) ← value e bound depth (← skipWithin e bound s)
      let t ← t.insert ks k v
      match ← skipWithin e bound s with
      | '}' :: s => return ((), s)
      | ',' :: s =>
        match e, ← skipWithin e bound s with
        | .v1_1, '}' :: s => return ((), s)
        | _, s => pairs e bound depth count t s
      | _ => none
    | _ => none
termination_by count _ _ => (depth, count + 1)

end

/-! ### Documents -/

/-- A document as far as it has been read: its table, and the keys of the table in which the
following keys stand. -/
structure Section where
  table : Table
  header : List String

/-- Reads a header or a value of a key, to the end of its line. -/
def statement (e : Edition) (bound : Nat) (d : Section) (s : List Char) :
    Option (Section × List Char) :=
  match s with
  | '[' :: '[' :: s => do
    match ← key e bound e.limit s with
    | ((ks, k), ']' :: ']' :: s) =>
      return (⟨← d.table.openElement ks k, ks ++ [k]⟩, ← endOfLine s)
    | _ => none
  | '[' :: s => do
    match ← key e bound e.limit s with
    | ((ks, k), ']' :: s) => return (⟨← d.table.openTable ks k, ks ++ [k]⟩, ← endOfLine s)
    | _ => none
  | s => do
    match ← key e bound e.limit s with
    | ((ks, k), '=' :: s) =>
      let (v, s) ← value e bound e.limit (skipBlanks s)
      return (⟨← d.table.insertBelow d.header ks k v, d.header⟩, ← endOfLine s)
    | _ => none

/-- Reads statements, at most so many of them, to the end of the text. -/
def statements (e : Edition) (bound : Nat) : Nat → Section → List Char → Option Table
  | 0, _, _ => none
  | count + 1, d, s => do
    match ← skipLines bound s with
    | [] => return d.table
    | s =>
      let (d, s) ← statement e bound d s
      statements e bound count d s

/-- The table that a text of an edition holds. A byte-order mark at its front does not count. -/
def read (e : Edition) (source : String) : Option Table :=
  let s := match source.toList with
    | '\uFEFF' :: s => s
    | s => s
  let bound := s.length + 1
  statements e bound bound ⟨[], []⟩ s

end Toml

end RoomDraw
