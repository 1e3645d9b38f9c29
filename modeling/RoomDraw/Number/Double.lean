import RoomDraw.Number.Binary

/-!
# Double-precision words

The 64-bit interchange form of double-precision numbers: a sign bit, eleven exponent bits and
fifty-two fraction bits. `Double.ofBits` reads a word as the exact value it stands for, and
`Binary.toBits` writes a nonnegative value back.
-/

namespace RoomDraw

/-- What a double-precision word stands for. -/
inductive Double where
  | nan
  | infinite (negative : Bool)
  | finite (negative : Bool) (magnitude : Binary)
deriving DecidableEq, Repr

/-- The digit that stands before the fraction bits, but is in no word. -/
def Double.hiddenDigit : Nat := 0x10000000000000

def Double.ofBits (word : UInt64) : Double :=
  let bits := word.toNat
  let negative := 0x8000000000000000 ≤ bits
  let field : Nat := bits / hiddenDigit % 2048
  let fraction : Nat := bits % hiddenDigit
  if field = 2047 then (if fraction = 0 then .infinite negative else .nan)
  else if field = 0 then .finite negative ⟨fraction, -1074⟩
  else .finite negative ⟨hiddenDigit + fraction, (field : Int) - 1075⟩

/-- The word of a nonnegative value that rounding to double precision has given. A value of
`2 ^ 1024` or more has the word of infinity. -/
def Binary.toBits (x : Binary) : UInt64 :=
  if x.mantissa < Double.hiddenDigit then .ofNat x.mantissa
  else
    let carried := x.mantissa = 2 * Double.hiddenDigit
    let fraction := if carried then 0 else x.mantissa - Double.hiddenDigit
    let field := (x.exponent + 1075).toNat + (if carried then 1 else 0)
    .ofNat (if 2047 ≤ field then 2047 * Double.hiddenDigit
      else field * Double.hiddenDigit + fraction)

/-- Sixteen hexadecimal digits, in lower case. -/
def hexWord (word : UInt64) : String :=
  let digits := Nat.toDigits 16 word.toNat
  String.ofList (List.replicate (16 - digits.length) '0' ++ digits)

end RoomDraw
