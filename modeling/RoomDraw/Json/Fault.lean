import RoomDraw.Number.Binary
import RoomDraw.Number.Decimal
import RoomDraw.Text.Quoted
import RoomDraw.Text.Utf8

/-!
# Faults of a JSON text

What can be wrong with a text that is read as a value of an expected form, and how it is reported:
a cause, and the line and column up to which the text was read.
-/

namespace RoomDraw

namespace Json

/-- A value that was found where another form was expected. -/
inductive Found where
  | null
  | boolean (value : Bool)
  | natural (value : Nat)
  | negative (magnitude : Nat)
  | real (below : Bool) (magnitude : Binary)
  | text (value : String)
  | array
  | object
deriving DecidableEq, Repr

/-- Numbers from a hundred-thousandth to below ten to the sixteenth have no exponent. -/
def realLayout : DecimalLayout := ⟨-5, 15, "+"⟩

def Found.describe : Found → String
  | .null => "null"
  | .boolean value => s!"boolean `{value}`"
  | .natural value => s!"integer `{value}`"
  | .negative magnitude => s!"integer `-{magnitude}`"
  | .real below magnitude =>
    let sign := if below then "-" else ""
    s!"floating point `{sign}" ++ realLayout.text (magnitude.shortest .double) ++ "`"
  | .text value => "string " ++ quoted value
  | .array => "sequence"
  | .object => "map"

/-- What is wrong with a text. -/
inductive Cause where
  | endInArray
  | endInObject
  | endInString
  | endInValue
  | colonExpected
  | arrayGoesOn
  | objectGoesOn
  | wordExpected
  | valueExpected
  | escapeInvalid
  | numberInvalid
  | numberTooLarge
  | surrogateAlone
  | surrogateCut
  | controlCharacter
  | keyNotText
  | commaAtEnd
  | textGoesOn
  | wrongForm (found : Found) (expected : String)
  | wrongValue (found : Found) (expected : String)
  | wrongLength (length : Nat) (expected : String)
  | fieldMissing (name : String)
  | fieldRepeated (name : String)
deriving DecidableEq, Repr

def Cause.message : Cause → String
  | .endInArray => "EOF while parsing a list"
  | .endInObject => "EOF while parsing an object"
  | .endInString => "EOF while parsing a string"
  | .endInValue => "EOF while parsing a value"
  | .colonExpected => "expected `:`"
  | .arrayGoesOn => "expected `,` or `]`"
  | .objectGoesOn => "expected `,` or `\x7d`"
  | .wordExpected => "expected ident"
  | .valueExpected => "expected value"
  | .escapeInvalid => "invalid escape"
  | .numberInvalid => "invalid number"
  | .numberTooLarge => "number out of range"
  | .surrogateAlone => "lone leading surrogate in hex escape"
  | .surrogateCut => "unexpected end of hex escape"
  | .controlCharacter => "control character (\\u0000-\\u001F) found while parsing a string"
  | .keyNotText => "key must be a string"
  | .commaAtEnd => "trailing comma"
  | .textGoesOn => "trailing characters"
  | .wrongForm found expected => "invalid type: " ++ found.describe ++ ", expected " ++ expected
  | .wrongValue found expected => "invalid value: " ++ found.describe ++ ", expected " ++ expected
  | .wrongLength length expected => s!"invalid length {length}, expected {expected}"
  | .fieldMissing name => s!"missing field `{name}`"
  | .fieldRepeated name => s!"duplicate field `{name}`"

/-- A fault, with the part of the text that was not read when it was found, and how many bytes of
that part belong to the fault as well. -/
structure Fault where
  cause : Cause
  rest : List Char
  ahead : Nat
deriving DecidableEq, Repr

namespace Fault

/-- The line, counted from one, and the column after so many bytes of a text: the number of bytes
since the last line break. -/
def lineAndColumn (read : Bytes) : Nat × Nat :=
  (read.count 0x0A + 1, (read.reverse.takeWhile (· != 0x0A)).length)

def report (text : String) (f : Fault) : String :=
  let bytes := Utf8.encode text
  let unread := Utf8.width f.rest
  let (line, column) := lineAndColumn (bytes.take (bytes.length - unread + f.ahead))
  f.cause.message ++ s!" at line {line} column {column}"

end Fault

/-- Reads a value from the front of a text and returns it with what is left of the text. -/
abbrev Reader (α : Type) := List Char → Except Fault (α × List Char)

/-- The fault that lies before the rest of the text. -/
def fault {α : Type} (cause : Cause) (rest : List Char) : Except Fault α :=
  .error ⟨cause, rest, 0⟩

/-- The fault that lies in the next character, of which it takes one byte. -/
def faultAhead {α : Type} (cause : Cause) (rest : List Char) : Except Fault α :=
  .error ⟨cause, rest, 1⟩

end Json

end RoomDraw
