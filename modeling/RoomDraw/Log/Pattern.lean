import RoomDraw.Settings.Literal
import RoomDraw.Text.Alphanumeric

/-!
# Patterns for the values of fields

A filter may ask for the value of a field, by a truth value, a number or a regular expression. What
matters here is only whether a text is one of these: which regular expressions are well-formed and
can be made into an automaton that looks at one character after the other.
-/

namespace RoomDraw

namespace Log

namespace Pattern

/-- How the rest of a group is read: whether classes and boundaries are those of all scripts, and
whether blanks and comments do not count. -/
structure Mode where
  unicode : Bool
  spaced : Bool
deriving DecidableEq, Repr

namespace Mode

/-- The mode at the front of a pattern. -/
def initial : Mode := ⟨true, false⟩

/-- Passes over what does not count, with a bound on the number of comments. -/
def skip (m : Mode) (s : List Char) : List Char :=
  if m.spaced then blanks s.length s else s
where
  /-- Passes over blanks and so many comments. -/
  blanks : Nat → List Char → List Char
    | 0, s => s
    | bound + 1, s =>
      match s.dropWhile Literal.isWhite with
      | '#' :: s => blanks bound (s.dropWhile (· != '\n'))
      | s => s

/-- The mode after flags, of which those behind a dash are taken back. -/
def set (m : Mode) (flags : List Char) : Mode :=
  let (on, off) := flags.span (· != '-')
  { unicode := (m.unicode || on.contains 'u') && !off.contains 'u'
    spaced := (m.spaced || on.contains 'x') && !off.contains 'x' }

end Mode

/-! ### Escapes -/

/-- What an escape stands for. -/
inductive Atom where
  | literal (c : Char)
  | oneOf
  /-- A place rather than a character. -/
  | place
deriving DecidableEq, Repr

/-- Whether a character may be escaped that would stand for itself without that. -/
def isEscapable (c : Char) : Bool := c.toNat < 128 && !c.isAlphanum && c != '<' && c != '>'

/-- The characters that a letter behind a backslash stands for. -/
def controls : List (Char × Char) :=
  [('a', '\x07'), ('f', '\x0c'), ('t', '\t'), ('n', '\n'), ('r', '\r'), ('v', '\x0b')]

/-- Reads an escape from behind the backslash. The boundaries of words of all scripts are beyond an
automaton. Without the classes of all scripts, a class may hold characters of one byte only. -/
def escape (m : Mode) : List Char → Option (Atom × List Char)
  | [] => none
  | c :: s =>
    if c = 'x' ∨ c = 'u' ∨ c = 'U' then do
      let (d, s) ← Toml.codePoint (if c = 'x' then 2 else if c = 'u' then 4 else 8) s
      guard (m.unicode || d.toNat < 128)
      return (.literal d, s)
    else if c = 'p' ∨ c = 'P' then
      match s with
      | category :: s =>
        if m.unicode && "CLMNPSZ".toList.contains category.toUpper then some (.oneOf, s) else none
      | [] => none
    else if c = 'd' ∨ c = 's' ∨ c = 'w' then some (.oneOf, s)
    else if c = 'D' ∨ c = 'S' ∨ c = 'W' then (if m.unicode then some (.oneOf, s) else none)
    else if c = 'A' ∨ c = 'z' then some (.place, s)
    else if c = 'b' ∨ c = 'B' ∨ c = '<' ∨ c = '>' then
      (if m.unicode then none else some (.place, s))
    else if isEscapable c then some (.literal c, s)
    else (controls.lookup c).map fun d => (.literal d, s)

/-! ### Classes between brackets -/

/-- The names of classes that can stand between brackets and colons. -/
def classNames : List String :=
  ["alnum", "alpha", "ascii", "blank", "cntrl", "digit", "graph", "lower", "print", "punct",
   "space", "upper", "word", "xdigit"]

/-- Reads a named class from behind its bracket. -/
def namedClass : List Char → Option (List Char)
  | ':' :: s =>
    let (name, rest) := (match s with
      | '^' :: s => s
      | s => s).span (· != ':')
    match rest with
    | ':' :: ']' :: rest => if classNames.contains (.ofList name) then some rest else none
    | _ => none
  | _ => none

/-- Reads the front of a class from behind its bracket: a sign of negation, and dashes or a closing
bracket that stand for themselves. -/
def openClass (m : Mode) (s : List Char) : Option (List Char) :=
  let s := m.skip s
  let negated := s.head? = some '^'
  if negated && !m.unicode then none
  else
    match m.skip (if negated then s.tail else s) with
    | ']' :: s => some s
    | s => some (s.dropWhile (· == '-'))

/-- Reads a character or an escape in a class. -/
def classItem (m : Mode) : List Char → Option (Atom × List Char)
  | [] => none
  | '\\' :: s => escape m s
  | c :: s => if m.unicode || c.toNat < 128 then some (.literal c, s) else none

/-- Reads an item or a range of a class. The ends of a range are characters, in order. -/
def classRange (m : Mode) (s : List Char) : Option (List Char) := do
  let (first, s) ← classItem m s
  guard (first != .place)
  match m.skip s with
  | '-' :: rest =>
    match m.skip rest with
    | ']' :: _ | '-' :: _ => return s
    | rest =>
      let (last, rest) ← classItem m rest
      match first, last with
      | .literal a, .literal b => if a ≤ b then return rest else none
      | _, _ => none
  | _ => return s

/-- Reads the rest of a class that stands in so many others. -/
def classRest (m : Mode) : Nat → Nat → List Char → Option (List Char)
  | 0, _, _ => none
  | bound + 1, depth, s =>
    match m.skip s with
    | [] => none
    | '[' :: s =>
      match namedClass s with
      | some s => classRest m bound depth s
      | none => do classRest m bound (depth + 1) (← openClass m s)
    | ']' :: s =>
      match depth with
      | 0 => some s
      | depth + 1 => classRest m bound depth s
    | '&' :: '&' :: s | '-' :: '-' :: s | '~' :: '~' :: s => classRest m bound depth s
    | s => do classRest m bound depth (← classRange m s)

/-! ### Groups -/

/-- Reads the name of a group, up to the bracket behind it. -/
def groupName (s : List Char) : Option (List Char × List Char) :=
  let (name, rest) := s.span (· != '>')
  match name, rest with
  | first :: others, '>' :: rest =>
    let goodFirst := first == '_' || (isAlphanumeric first && !first.isDigit)
    let good := others.all fun c => "_.[]".toList.contains c || isAlphanumeric c
    if goodFirst && good then some (name, rest) else none
  | _, _ => none

/-- Whether flags are known, none is given twice, and none is missing behind a dash. -/
def areFlags (flags : List Char) : Bool :=
  flags.all "imsUuRx-".toList.contains && decide flags.Nodup && flags.getLast? != some '-'

/-- A pattern as far as it has been read. -/
structure Progress where
  mode : Mode
  /-- The modes outside of the groups that are open, the innermost first. -/
  outer : List Mode
  names : List (List Char)
  /-- Whether there is something before that can be repeated. -/
  repeatable : Bool

/-- Reads the front of a group, or flags, from behind the parenthesis. What looks ahead or behind is
beyond an automaton. -/
def openGroup (p : Progress) (s : List Char) : Option (Progress × List Char) :=
  let inside := { p with outer := p.mode :: p.outer, repeatable := false }
  let named (s : List Char) : Option (Progress × List Char) := do
    let (name, s) ← groupName s
    if p.names.contains name then none else some ({ inside with names := name :: p.names }, s)
  match p.mode.skip s with
  | '?' :: '!' :: _ | '?' :: '=' :: _ | '?' :: '<' :: '!' :: _ | '?' :: '<' :: '=' :: _ => none
  | '?' :: 'P' :: '<' :: s | '?' :: '<' :: s => named s
  | '?' :: s =>
    let (flags, rest) := s.span fun c => c != ':' && c != ')'
    let mode := p.mode.set flags
    if !areFlags flags then none
    else
      match rest with
      | ':' :: s => some ({ inside with mode }, s)
      | ')' :: s => if flags.isEmpty then none else some ({ p with mode, repeatable := false }, s)
      | _ => none
  | s => some (inside, s)

/-! ### Patterns -/

/-- Whether the rest of a pattern is well-formed, with a bound on the number of its parts. A brace
would need another to close it, and a value cannot hold that. -/
def isRest : Nat → Progress → List Char → Bool
  | 0, _, _ => false
  | bound + 1, p, s =>
    match p.mode.skip s with
    | [] => p.outer.isEmpty
    | '(' :: s =>
      match openGroup p s with
      | some (p, s) => isRest bound p s
      | none => false
    | ')' :: s =>
      match p.outer with
      | mode :: outer => isRest bound { p with mode, outer, repeatable := true } s
      | [] => false
    | '|' :: s => isRest bound { p with repeatable := false } s
    | '[' :: s =>
      match (openClass p.mode s).bind (classRest p.mode s.length 0) with
      | some s => isRest bound { p with repeatable := true } s
      | none => false
    | '{' :: _ => false
    | '*' :: s | '+' :: s | '?' :: s =>
      p.repeatable && isRest bound p (match s with
        | '?' :: s => s
        | s => s)
    | '\\' :: s =>
      match escape p.mode s with
      | some (_, s) => isRest bound { p with repeatable := true } s
      | none => false
    | c :: s => (p.mode.unicode || c != '.') && isRest bound { p with repeatable := true } s

/-- Whether a text is a regular expression that can be made into an automaton. -/
def isExpression (s : List Char) : Bool :=
  isRest (s.length + 1) ⟨.initial, [], [], false⟩ s

/-- Whether a text is a number, which may be infinite or none at all. -/
def isNumber (s : List Char) : Bool :=
  let word := String.ofList ((Toml.signOf s).2.map Char.toLower)
  word == "inf" || word == "infinity" || word == "nan" || (Literal.decimal? s).isSome

/-- Whether a filter may ask for a value by a text. -/
def isValue (s : List Char) : Bool := isNumber s || isExpression s

end Pattern

end Log

end RoomDraw
