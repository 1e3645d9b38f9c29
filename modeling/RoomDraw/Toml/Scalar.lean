import RoomDraw.Json.Text
import RoomDraw.Number.Decimal
import RoomDraw.Toml.Basic

/-!
# Scalars of TOML

Strings, numbers, dates and times. A scalar that is not a string is taken as the longest run of
characters that may stand in one, and then has to have one of the known forms.
-/

namespace RoomDraw

namespace Toml

/-- Reads from the front of a text, and returns what is left of it. -/
abbrev Reader (α : Type) := List Char → Option (α × List Char)

def isBlank (c : Char) : Bool := c == ' ' || c == '\t'

def skipBlanks (s : List Char) : List Char := s.dropWhile isBlank

/-- Whether a character may stand in a key without quotes. -/
def isKeyChar (c : Char) : Bool := c.isAlphanum || c == '_' || c == '-'

/-- Whether a character may stand in comments and literal strings. -/
def isPlain (c : Char) : Bool := c == '\t' || (' ' ≤ c && c != '\x7f')

/-! ### Strings -/

/-- Reads so many hexadecimal digits as a character. -/
def codePoint (digits : Nat) : Reader Char := fun s => do
  let ds ← (s.take digits).mapM Json.hexDigit?
  let n := ds.foldl (fun n d => n * 16 + d) 0
  if ds.length = digits ∧ n.isValidChar then some (.ofNat n, s.drop digits) else none

/-- Reads an escape from behind the backslash. -/
def escape (e : Edition) : Reader Char
  | 'b' :: s => some ('\x08', s)
  | 't' :: s => some ('\t', s)
  | 'n' :: s => some ('\n', s)
  | 'f' :: s => some ('\x0c', s)
  | 'r' :: s => some ('\r', s)
  | '"' :: s => some ('"', s)
  | '\\' :: s => some ('\\', s)
  | 'u' :: s => codePoint 4 s
  | 'U' :: s => codePoint 8 s
  | 'e' :: s => if e = .v1_1 then some ('\x1b', s) else none
  | 'x' :: s => if e = .v1_1 then codePoint 2 s else none
  | _ => none

/-- Reads the rest of a string on one line, of at most so many characters, after those read already,
of which the last comes first. Only strings in double quotes have escapes. -/
def line (e : Edition) (quote : Char) : Nat → List Char → Reader String
  | 0, _, _ => none
  | _, _, [] => none
  | bound + 1, before, c :: s =>
    if c = quote then some (.ofList before.reverse, s)
    else if c = '\\' ∧ quote = '"' then do
      let (d, s) ← escape e s
      line e quote bound (d :: before) s
    else if isPlain c then line e quote bound (c :: before) s
    else none

/-- A line break at the front of a text is passed over. -/
def skipBreak : List Char → List Char
  | '\n' :: s => s
  | '\r' :: '\n' :: s => s
  | s => s

/-- What is left behind a backslash at the end of a line: the text from the next character that is
neither blank nor line break. -/
def joinedLine (s : List Char) : Option (List Char) :=
  match skipBlanks s with
  | '\n' :: s | '\r' :: '\n' :: s =>
    some (s.dropWhile fun c => isBlank c || c == '\n' || c == '\r')
  | _ => none

/-- Reads the rest of a string of several lines, up to three quotes, before which two more may
belong to the string. -/
def lines (e : Edition) (quote : Char) : Nat → List Char → Reader String
  | 0, _, _ => none
  | _, _, [] => none
  | bound + 1, before, c :: s =>
    if c = quote then
      let quotes := ((c :: s).takeWhile (· == quote)).length
      if quotes < 3 then lines e quote bound (c :: before) s
      else if 5 < quotes then none
      else
        some (.ofList (List.replicate (quotes - 3) quote ++ before).reverse, (c :: s).drop quotes)
    else if c = '\\' ∧ quote = '"' then
      match joinedLine s with
      | some s => lines e quote bound before s
      | none => do
        let (d, s) ← escape e s
        lines e quote bound (d :: before) s
    else if c = '\r' then
      match s with
      | '\n' :: s => lines e quote bound ('\n' :: before) s
      | _ => none
    else if c = '\n' ∨ isPlain c then lines e quote bound (c :: before) s
    else none

/-- Reads a string from its first quote. -/
def text (e : Edition) (bound : Nat) : Reader String
  | '"' :: '"' :: '"' :: s => lines e '"' bound [] (skipBreak s)
  | '\'' :: '\'' :: '\'' :: s => lines e '\'' bound [] (skipBreak s)
  | '"' :: s => line e '"' bound [] s
  | '\'' :: s => line e '\'' bound [] s
  | _ => none

/-! ### Numbers -/

/-- Digits, between which single underscores may stand; returned without them. -/
def digits (isDigit : Char → Bool) (s : List Char) : Option (List Char) :=
  let groups := s.splitOn '_'
  if groups.all fun g => !g.isEmpty && g.all isDigit then some groups.flatten else none

def valueOf (base : Nat) (ds : List Char) : Nat :=
  ds.foldl (fun n c => n * base + (Json.hexDigit? c).getD 0) 0

/-- The sign at the front of a numeral, and the rest. -/
def signOf : List Char → Bool × List Char
  | '-' :: s => (true, s)
  | '+' :: s => (false, s)
  | s => (false, s)

/-- Digits of the base ten that do not begin with a zero, unless that is all of them. -/
def wholeDigits (s : List Char) : Option (List Char) := do
  let ds ← digits Char.isDigit s
  if ds.head? = some '0' ∧ 1 < ds.length then none else some ds

/-- An integer that fits a signed word of 64 bits. -/
def integer? (s : List Char) : Option Int :=
  let fits (n : Int) : Option Int := 
    if -0x8000000000000000 ≤ n ∧ n < 0x8000000000000000 then some n else none
  let based (base : Nat) (isDigit : Char → Bool) (s : List Char) : Option Int := do
    fits (valueOf base (← digits isDigit s))
  match s with
  | '0' :: 'x' :: s => based 16 (fun c => (Json.hexDigit? c).isSome) s
  | '0' :: 'o' :: s => based 8 (fun c => '0' ≤ c && c ≤ '7') s
  | '0' :: 'b' :: s => based 2 (fun c => c == '0' || c == '1') s
  | s => do
    let (below, s) := signOf s
    let n : Int := valueOf 10 (← wholeDigits s)
    fits (if below then -n else n)

/-- The decimal that a numeral with a fraction or an exponent spells, but for its sign. -/
def decimal? (s : List Char) : Option Decimal := do
  let (mantissa, exponent) := (signOf s).2.span fun c => c != 'e' && c != 'E'
  let (whole, fraction) := mantissa.span (· != '.')
  guard (!(fraction.isEmpty && exponent.isEmpty))
  let w ← wholeDigits whole
  let f ← if fraction.isEmpty then some [] else digits Char.isDigit fraction.tail
  let (below, e) := signOf exponent.tail
  let n : Int ← if exponent.isEmpty then some 0
    else (digits Char.isDigit e).map fun ds => valueOf 10 ds
  return ⟨valueOf 10 (w ++ f), (if below then -n else n) - f.length⟩

/-- The value of a number that is not an integer. A numeral that is too great for a double has
none. -/
def real? (s : List Char) : Option Value :=
  if (signOf s).2 = "inf".toList ∨ (signOf s).2 = "nan".toList then some .notFinite
  else do
    guard (!(← decimal? s).overflows)
    return .other

/-! ### Dates and times -/

/-- A number written with so many digits, of the given range. -/
def inRange (width low high : Nat) (s : List Char) : Bool :=
  s.length == width && s.all Char.isDigit && low ≤ valueOf 10 s && valueOf 10 s ≤ high

def daysIn (year month : Nat) : Nat :=
  if month = 2 then (if year % 4 = 0 ∧ (year % 100 ≠ 0 ∨ year % 400 = 0) then 29 else 28)
  else if month = 4 ∨ month = 6 ∨ month = 9 ∨ month = 11 then 30
  else 31

def isDate (s : List Char) : Bool :=
  match s.splitOn '-' with
  | [y, m, d] =>
    inRange 4 0 9999 y && inRange 2 1 12 m && inRange 2 1 (daysIn (valueOf 10 y) (valueOf 10 m)) d
  | _ => false

/-- Whether a text is a time of the day. -/
def isTime (e : Edition) (s : List Char) : Bool :=
  let (whole, fraction) := s.span (· != '.')
  let goodFraction := match fraction with
    | [] => true
    | _ :: f => !f.isEmpty && f.all Char.isDigit
  match whole.splitOn ':' with
  | [h, m] => e == .v1_1 && inRange 2 0 23 h && inRange 2 0 59 m && fraction.isEmpty
  | [h, m, s] => inRange 2 0 23 h && inRange 2 0 59 m && inRange 2 0 60 s && goodFraction
  | _ => false

/-- Whether a text is the distance of a time zone. -/
def isOffset : List Char → Bool
  | ['Z'] | ['z'] => true
  | '+' :: s | '-' :: s =>
    match s.splitOn ':' with
    | [h, m] => inRange 2 0 23 h && inRange 2 0 59 m
    | _ => false
  | _ => false

/-- Whether a text is a date, a time, or both, with a time zone if it is both. -/
def isMoment (e : Edition) (s : List Char) : Bool :=
  let date := s.take 10
  match s.drop 10 with
  | [] => isDate date || isTime e s
  | c :: rest =>
    if c = 'T' ∨ c = 't' ∨ c = ' ' then
      let (time, offset) := rest.span fun c => c.isDigit || c == ':' || c == '.'
      isDate date && isTime e time && (offset.isEmpty || isOffset offset)
    else isTime e s

/-! ### Scalars -/

/-- Whether a character may stand in a scalar that is not a string. -/
def isScalar (c : Char) : Bool :=
  c.isAlphanum || c == '+' || c == '-' || c == '_' || c == '.' || c == ':'

/-- The characters of a scalar that is not a string, and the rest. A single blank belongs to it
between a date and a time. -/
def scalarOf (s : List Char) : List Char × List Char :=
  let (first, rest) := s.span isScalar
  match rest with
  | ' ' :: c :: more =>
    if isDate first ∧ c.isDigit then
      let (second, rest) := (c :: more).span isScalar
      (first ++ ' ' :: second, rest)
    else (first, rest)
  | _ => (first, rest)

/-- Reads a scalar that is not a string. -/
def scalar (e : Edition) : Reader Value := fun s =>
  let (token, rest) := scalarOf s
  if token = "true".toList then some (.boolean true, rest)
  else if token = "false".toList then some (.boolean false, rest)
  else
    match integer? token with
    | some n => some (.integer n, rest)
    | none =>
      if isMoment e token then some (.other, rest) else (real? token).map fun v => (v, rest)

end Toml

end RoomDraw
