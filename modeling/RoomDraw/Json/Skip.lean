import RoomDraw.Json.Number
import RoomDraw.Json.Text

/-!
# Passing over values

A value of no interest is checked for its form and passed over, however deep its arrays and objects
are nested: the brackets that are open are kept on a stack.
-/

namespace RoomDraw

namespace Json

/-- Whether a character may stand between the parts of a value. -/
def isSpace (c : Char) : Bool := c == ' ' || c == '\n' || c == '\t' || c == '\r'

/-- The text from its first character that is not space. -/
def skipSpace (s : List Char) : List Char := s.dropWhile isSpace

/-- Reads on through the characters of a word. -/
def word : List Char → Reader Unit
  | [], s => .ok ((), s)
  | _ :: _, [] => fault .endInValue []
  | c :: cs, d :: rest => if c = d then word cs rest else faultAhead .wordExpected (d :: rest)

/-- Reads the key of an object and the colon after it. -/
def keyThen {α : Type} (key : Reader α) : Reader α := fun s => do
  let (k, s) ← key s
  match skipSpace s with
  | [] => fault .endInObject []
  | ':' :: rest => return (k, rest)
  | s => faultAhead .colonExpected s

inductive Bracket where
  | array
  | object
deriving DecidableEq, Repr

namespace Bracket

def closing : Bracket → Char
  | array => ']'
  | object => '}'

/-- The fault of a text that ends before the bracket is closed. -/
def atEnd : Bracket → Cause
  | array => .endInArray
  | object => .endInObject

/-- The fault of a member that is followed by neither a comma nor the end. -/
def goesOn : Bracket → Cause
  | array => .arrayGoesOn
  | object => .objectGoesOn

end Bracket

/-- Where passing over a value stands. -/
inductive SkipState where
  | value
  /-- Behind an opening bracket, before the first member or the end. -/
  | opened
  /-- Behind a value. -/
  | closed
deriving DecidableEq, Repr

/-- Reads what stands before the value of a member: in an object the key and a colon. -/
def beforeMember : Bracket → Reader Unit
  | .array, s => .ok ((), s)
  | .object, s =>
    match skipSpace s with
    | [] => fault .endInObject []
    | '"' :: rest => keyThen skipText rest
    | s => faultAhead .keyNotText s

/-- Passes over a value that is neither an array nor an object. -/
def skipScalar : Reader Unit
  | [] => fault .endInValue []
  | c :: rest =>
    if c = 'n' then word "ull".toList rest
    else if c = 't' then word "rue".toList rest
    else if c = 'f' then word "alse".toList rest
    else if c = '"' then skipText rest
    else if c = '-' ∨ c.isDigit then skipNumber (c :: rest)
    else faultAhead .valueExpected (c :: rest)

/-- Passes over the rest of a value inside the open brackets, of which the innermost comes first.
Of two rounds that follow each other at least one takes a character off the text, so that twice as
many rounds as there are characters, and two more, are enough. -/
def skipRest : Nat → List Bracket → SkipState → Reader Unit
  | 0, _, _, s => fault .endInValue s
  | rounds + 1, stack, .value, s =>
    match skipSpace s with
    | '[' :: rest => skipRest rounds (.array :: stack) .opened rest
    | '{' :: rest => skipRest rounds (.object :: stack) .opened rest
    | s => do
      let ((), s) ← skipScalar s
      skipRest rounds stack .closed s
  | _ + 1, [], _, s => .ok ((), s)
  | rounds + 1, bracket :: stack, state, s =>
    match skipSpace s with
    | [] => fault bracket.atEnd []
    | c :: rest =>
      if c = bracket.closing then skipRest rounds stack .closed rest
      else if state = .opened then do
        let ((), s) ← beforeMember bracket (c :: rest)
        skipRest rounds (bracket :: stack) .value s
      else if c = ',' then do
        let ((), s) ← beforeMember bracket rest
        skipRest rounds (bracket :: stack) .value s
      else faultAhead bracket.goesOn (c :: rest)

/-- The round in which a value is due. -/
theorem skipRest_value (rounds : Nat) (stack : List Bracket) (s : List Char) :
    skipRest (rounds + 1) stack .value s =
      (match skipSpace s with
      | '[' :: rest => skipRest rounds (.array :: stack) .opened rest
      | '{' :: rest => skipRest rounds (.object :: stack) .opened rest
      | s => do
        let ((), s) ← skipScalar s
        skipRest rounds stack .closed s) :=
  rfl

/-- The round inside a bracket in which a member is due, or the end. -/
theorem skipRest_member (rounds : Nat) (bracket : Bracket) (stack : List Bracket)
    {state : SkipState} (hstate : state ≠ .value) (s : List Char) :
    skipRest (rounds + 1) (bracket :: stack) state s =
      match skipSpace s with
      | [] => fault bracket.atEnd []
      | c :: rest =>
        if c = bracket.closing then skipRest rounds stack .closed rest
        else if state = .opened then do
          let ((), s) ← beforeMember bracket (c :: rest)
          skipRest rounds (bracket :: stack) .value s
        else if c = ',' then do
          let ((), s) ← beforeMember bracket rest
          skipRest rounds (bracket :: stack) .value s
        else faultAhead bracket.goesOn (c :: rest) := by
  cases state with
  | value => exact absurd rfl hstate
  | opened | closed => rfl

/-- Passes over a value, in a text of at most `bound` characters. -/
def skipValue (bound : Nat) : Reader Unit := skipRest (2 * bound + 2) [] .value

end Json

end RoomDraw
