import RoomDraw.Number.Rounding

/-!
# Binary floating-point values

A nonnegative number with a bounded number of binary digits, `mantissa * 2 ^ exponent`, and the
rounding of a quotient to such a number. Everything is exact arithmetic on integers, so that the
nearest value, and which way a tie goes, can be reasoned about.
-/

namespace RoomDraw

/-- The value `mantissa * 2 ^ exponent`. -/
structure Binary where
  mantissa : Nat
  exponent : Int
deriving DecidableEq, Repr

/-- A binary format: the number of digits that a mantissa may have, and the least exponent. -/
structure BinaryFormat where
  precision : Nat
  minExponent : Int
deriving DecidableEq, Repr

namespace BinaryFormat

/-- 24 digits: the format in which the sampling thresholds are worked out. -/
def single : BinaryFormat := ⟨24, -149⟩

/-- 53 digits: the format of size draws, averages and fractional numbers in documents. -/
def double : BinaryFormat := ⟨53, -1074⟩

end BinaryFormat

namespace Binary

/-- The value as a quotient of natural numbers. -/
def ratio (x : Binary) : Nat × Nat :=
  (x.mantissa * Nat.pow 2 x.exponent.toNat, Nat.pow 2 (-x.exponent).toNat)

/-- `num / den < 2 ^ k`, for a positive `den`. -/
def ratioBelow (num den : Nat) (k : Int) : Bool :=
  num * Nat.pow 2 (-k).toNat < den * Nat.pow 2 k.toNat

/-- The number of binary digits before the point of `num / den`; zero or less if it is below
one half or less. It is the least `k` with `num / den < 2 ^ k`. -/
def digitsBeforePoint (num den : Nat) : Int :=
  let k : Int := (Nat.log2 num : Int) - (Nat.log2 den : Int)
  if ratioBelow num den k then k else k + 1

/-- The exponent at which a format represents numbers of the size of `num / den`. -/
def exponentFor (format : BinaryFormat) (num den : Nat) : Int :=
  max format.minExponent (digitsBeforePoint num den - format.precision)

/-- The value of the format nearest to `num / den`, of two equally near the one with an even
mantissa. The mantissa may reach `2 ^ precision`, when rounding carries over. -/
def ofRatio (format : BinaryFormat) (num den : Nat) : Binary :=
  let e := exponentFor format num den
  ⟨roundHalfEven (num * Nat.pow 2 (-e).toNat) (den * Nat.pow 2 e.toNat), e⟩

/-- The value of the format nearest to a natural number. -/
def ofNat (format : BinaryFormat) (n : Nat) : Binary := ofRatio format n 1

/-- The product, rounded to the format. -/
def mul (format : BinaryFormat) (x y : Binary) : Binary :=
  ofRatio format (x.ratio.1 * y.ratio.1) (x.ratio.2 * y.ratio.2)

/-- The quotient, rounded to the format. -/
def div (format : BinaryFormat) (x y : Binary) : Binary :=
  ofRatio format (x.ratio.1 * y.ratio.2) (x.ratio.2 * y.ratio.1)

/-- The sum, rounded to the format. -/
def add (format : BinaryFormat) (x y : Binary) : Binary :=
  ofRatio format (x.ratio.1 * y.ratio.2 + y.ratio.1 * x.ratio.2) (x.ratio.2 * y.ratio.2)

/-- Whether the first value is below the second. -/
def lt (x y : Binary) : Bool := x.ratio.1 * y.ratio.2 < y.ratio.1 * x.ratio.2

def isZero (x : Binary) : Bool := x.mantissa == 0

end Binary

end RoomDraw
