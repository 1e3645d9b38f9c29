import RoomDraw.Json.Fault

/-!
# Numbers in JSON

A numeral is read as its parts first. Its value is an integer if it has neither fraction nor
exponent and fits a word of 64 bits; otherwise it is a double, made of as many leading digits as fit
a word and a power of ten, in one step for each factor up to `10 ^ 308`. Each step rounds.
-/

namespace RoomDraw

namespace Json

/-- The digits at the front of a text, and the rest. -/
def digitsOf (s : List Char) : List Char × List Char :=
  (s.takeWhile Char.isDigit, s.dropWhile Char.isDigit)

/-- The parts of a numeral. An exponent has a sign and at least one digit. -/
structure Numeral where
  below : Bool
  whole : List Char
  fraction : List Char
  exponent : Option (Bool × List Char)
deriving DecidableEq, Repr

namespace Numeral

/-- One digit at least; at the end of the text the given cause is at fault. -/
def someDigits (atEnd : Cause) : Reader (List Char)
  | [] => fault atEnd []
  | c :: rest =>
    if c.isDigit then .ok (digitsOf (c :: rest)) else faultAhead .numberInvalid (c :: rest)

/-- The digits before the point: a single zero, or digits that do not begin with one. -/
def wholePart (atEnd : Cause) : Reader (List Char)
  | '0' :: c :: rest =>
    if c.isDigit then faultAhead .numberInvalid (c :: rest) else .ok (['0'], c :: rest)
  | s => someDigits atEnd s

/-- The digits after the point, if there is one. -/
def fractionPart (atEnd : Cause) : Reader (List Char)
  | '.' :: rest => someDigits atEnd rest
  | rest => .ok ([], rest)

/-- The exponent, if there is one: whether it is below zero, and its digits. -/
def exponentPart (atEnd : Cause) : Reader (Option (Bool × List Char)) := fun s =>
  match s with
  | [] => .ok (none, [])
  | c :: rest =>
    if c = 'e' ∨ c = 'E' then
      let (below, digits) := match rest with
        | '+' :: digits => (false, digits)
        | '-' :: digits => (true, digits)
        | digits => (false, digits)
      (someDigits atEnd digits).map fun (ds, rest) => (some (below, ds), rest)
    else .ok (none, s)

/-- Reads a numeral from behind its sign. -/
def read (atEnd : Cause) (below : Bool) : Reader Numeral := fun s => do
  let (whole, s) ← wholePart atEnd s
  let (fraction, s) ← fractionPart atEnd s
  let (exponent, s) ← exponentPart atEnd s
  return (⟨below, whole, fraction, exponent⟩, s)

def readSigned (atEnd : Cause) : Reader Numeral
  | '-' :: rest => read atEnd true rest
  | s => read atEnd false s

/-! ### The value -/

def digitValue (c : Char) : Nat := c.toNat - '0'.toNat

/-- Appends digits to a number as long as it stays below the bound; returns the number and the
digits that were left over. -/
def appendDigits (bound : Nat) : Nat → List Char → Nat × List Char
  | n, [] => (n, [])
  | n, c :: rest =>
    if n * 10 + digitValue c < bound then appendDigits bound (n * 10 + digitValue c) rest
    else (n, c :: rest)

/-- The greatest power of ten that one step takes. -/
def stepLimit : Nat := 308

/-- A power of ten, rounded to a double. -/
def tenTo (k : Nat) : Binary := .ofRatio .double (Nat.pow 10 k) 1

/-- Whether a rounded value is beyond all finite doubles. -/
def isInfinite (x : Binary) : Bool := Nat.pow 2 1024 * x.ratio.2 ≤ x.ratio.1

/-- Divides by a power of ten, in steps, until nothing is left. -/
def scaleDown (x : Binary) (k : Nat) : Binary :=
  if x.isZero then x
  else if stepLimit < k then scaleDown (x.div .double (tenTo stepLimit)) (k - stepLimit)
  else x.div .double (tenTo k)
termination_by k
decreasing_by simp [stepLimit] at *; omega

/-- The double for a number and a power of ten, if it is finite. -/
def scaled (n : Nat) (exponent : Int) : Option Binary :=
  let x := Binary.ofNat .double n
  if exponent < 0 then some (scaleDown x exponent.natAbs)
  else if stepLimit < exponent.toNat then (if x.isZero then some x else none)
  else
    let y := x.mul .double (tenTo exponent.toNat)
    if isInfinite y then none else some y

/-- One above the greatest exponent that is worked out. -/
def exponentLimit : Nat := 0x80000000

/-- The value of a numeral whose end lies before `rest`. -/
def value (m : Numeral) (rest : List Char) : Except Fault Found :=
  let (wholeDigits, unread) := appendDigits UInt64.size 0 m.whole
  if m.fraction = [] ∧ m.exponent = none ∧ unread = [] ∧ ¬ m.below then
    .ok (.natural wholeDigits)
  else if m.fraction = [] ∧ m.exponent = none ∧ unread = [] ∧ 0 < wholeDigits ∧
      wholeDigits ≤ 0x8000000000000000 then
    .ok (.negative wholeDigits)
  else
    let (digits, dropped) := appendDigits UInt64.size wholeDigits m.fraction
    let point : Int := (unread.length : Int) - (m.fraction.length - dropped.length : Nat)
    match m.exponent with
    | none => finish digits point rest
    | some (below, exponent) =>
      match appendDigits exponentLimit 0 exponent with
      | (e, []) => finish digits (if below then point - e else point + e) rest
      | (_, _ :: beyond) =>
        if digits = 0 ∨ below then .ok (.real m.below ⟨0, 0⟩)
        else fault .numberTooLarge (beyond ++ rest)
where
  /-- The double for the digits, or the fault that it is too large. -/
  finish (digits : Nat) (exponent : Int) (rest : List Char) : Except Fault Found :=
    match scaled digits exponent with
    | some x => .ok (.real m.below x)
    | none => fault .numberTooLarge rest

end Numeral

def readNumber : Reader Found := fun s => do
  let (numeral, rest) ← Numeral.readSigned .endInValue s
  return (← numeral.value rest, rest)

/-- Passes over a number. -/
def skipNumber : Reader Unit := fun s =>
  (Numeral.readSigned .numberInvalid s).map fun (_, rest) => ((), rest)

end Json

end RoomDraw
