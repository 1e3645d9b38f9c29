import RoomDraw.Settings.Layer
import RoomDraw.Toml.Scalar

/-!
# Literals in the environment

The value of a variable is read as a literal: a truth value, a number, a text between quotes, a list
or a dictionary. What is none of these is a text as it stands.
-/

namespace RoomDraw

namespace Literal

/-- Whether a character is white space, of any script. -/
def isWhite (c : Char) : Bool :=
  ('\t' ≤ c && c ≤ '\r') || c == ' ' || c == '\x85' || c == '\u00A0' || c == '\u1680' ||
    ('\u2000' ≤ c && c ≤ '\u200A') || c == '\u2028' || c == '\u2029' || c == '\u202F' ||
    c == '\u205F' || c == '\u3000'

/-- A text without white space at its ends. -/
def trim (s : List Char) : List Char :=
  ((s.dropWhile isWhite).reverse.dropWhile isWhite).reverse

/-- Blanks and line breaks, but no other white space. -/
def isSpace (c : Char) : Bool := c == ' ' || c == '\t' || c == '\n' || c == '\x0c' || c == '\r'

def skipSpace (s : List Char) : List Char := s.dropWhile isSpace

/-- Whether a character can stand in a literal without quotes. -/
def isBare (c : Char) : Bool := !(c == ',' || c == '{' || c == '}' || c == '[' || c == ']')

/-- The natural number that digits spell, which may have a plus sign before them. -/
def natural? (s : List Char) : Option Nat :=
  let ds := match s with
    | '+' :: ds => ds
    | ds => ds
  if !ds.isEmpty && ds.all Char.isDigit then some (Toml.valueOf 10 ds) else none

/-- The number below `2 ^ 64` that a text spells. -/
def word? (s : List Char) : Option Nat := (natural? s).filter (· < UInt64.size)

/-- The integer that a text spells and that fits a word with or without a sign. -/
def integer? (s : List Char) : Option Int :=
  match s with
  | '-' :: ds =>
    if !ds.isEmpty && ds.all Char.isDigit && Toml.valueOf 10 ds ≤ 0x8000000000000000 then
      some (-(Toml.valueOf 10 ds : Int))
    else none
  | s => (word? s).map Int.ofNat

/-- The decimal that a numeral spells, but for its sign. Either side of the point may be empty. -/
def decimal? (s : List Char) : Option Decimal := do
  let (mantissa, exponent) := (Toml.signOf s).2.span fun c => c != 'e' && c != 'E'
  let (whole, fraction) := mantissa.span (· != '.')
  let digits := whole ++ fraction.tail
  guard (!digits.isEmpty && digits.all Char.isDigit)
  let (below, e) := Toml.signOf exponent.tail
  guard (exponent.isEmpty || !e.isEmpty && e.all Char.isDigit)
  let n : Int := Toml.valueOf 10 e
  return ⟨Toml.valueOf 10 digits, (if below then -n else n) - fraction.tail.length⟩

/-- The value of a literal without quotes. A number with a point is a fraction, unless it is too
great for a double. -/
def bareValue (s : List Char) : RawValue :=
  match (decimal? s).filter fun _ => s.contains '.' with
  | some d => if d.overflows then .notFinite else .other
  | none =>
    match integer? s with
    | some n => .integer n
    | none => .text (.ofList s)

/-- Reads a text between quotes, from behind the first. -/
def quotedText (bound : Nat) : Toml.Reader String := Toml.line .v1_0 '"' bound []

/-- Reads the key of a dictionary. -/
def key (bound : Nat) : Toml.Reader String
  | '"' :: s => quotedText bound s
  | s =>
    let (name, rest) := s.span Toml.isKeyChar
    if name.isEmpty then none else some (.ofList name, rest)

mutual

/-- Reads a literal, with lists and dictionaries in it at most so deep. The words for truth values
are recognised whatever follows them. -/
def value (bound : Nat) : Nat → Toml.Reader RawValue
  | 0, _ => none
  | depth + 1, s =>
    match skipSpace s with
    | 't' :: 'r' :: 'u' :: 'e' :: s => some (.boolean true, s)
    | 'f' :: 'a' :: 'l' :: 's' :: 'e' :: s => some (.boolean false, s)
    | '{' :: '}' :: s | '[' :: ']' :: s => some (.other, s)
    | '{' :: s => do
      let ((), s) ← pairs bound depth bound s
      return (.other, s)
    | '[' :: s => do
      let ((), s) ← elements bound depth bound s
      return (.other, s)
    | '"' :: s => do
      let (t, s) ← quotedText bound s
      return (.text t, s)
    | '\'' :: c :: '\'' :: s => some (.text c.toString, s)
    | '\'' :: _ => none
    | s =>
      let (token, rest) := s.span isBare
      some (bareValue (trim token), rest)
termination_by depth _ => (depth, 0)

/-- Passes over the rest of a list, from its next element on. -/
def elements (bound depth : Nat) : Nat → Toml.Reader Unit
  | 0, _ => none
  | count + 1, s => do
    let (_, s) ← value bound depth s
    match skipSpace s with
    | ']' :: s | ',' :: ']' :: s => return ((), s)
    | ',' :: s => elements bound depth count s
    | _ => none
termination_by count _ => (depth, count + 1)

/-- Passes over the rest of a dictionary, from its next key on. -/
def pairs (bound depth : Nat) : Nat → Toml.Reader Unit
  | 0, _ => none
  | count + 1, s => do
    let (_, s) ← key bound (skipSpace s)
    match skipSpace s with
    | '=' :: s =>
      let (_, s) ← value bound depth s
      match skipSpace s with
      | '}' :: s | ',' :: '}' :: s => return ((), s)
      | ',' :: s => pairs bound depth count s
      | _ => none
    | _ => none
termination_by count _ => (depth, count + 1)

end

/-- Whether a text is a list without brackets. -/
def isOpenList (s : List Char) : Bool :=
  s.contains ',' && !(s.head?.any fun c => c == '[' || c == '{' || c == '"' || c == '\'')

/-- The value of a variable. -/
def read (text : String) : RawValue :=
  let s := trim text.toList
  let lower := s.map Char.toLower
  if lower = "true".toList then .boolean true
  else if lower = "false".toList then .boolean false
  else if isOpenList s then .other
  else
    let bound := s.length + 1
    match value bound bound s with
    | some (v, rest) => if (skipSpace rest).isEmpty then v else .text (.ofList s)
    | none => .text (.ofList s)

end Literal

end RoomDraw
