import RoomDraw.Number.Binary

/-!
# Powers with a fractional exponent

The power of a number of at least one, with an exponent below one. Every binary digit of the
exponent stands for a root: the square root of the number, the square root of that, and so on. The
power is the product of the roots whose digits are one.
-/

namespace RoomDraw

namespace Power

/-- The number of binary places with which roots and products are held. Those of a double are so few
beside them that what is cut off does not show in the nearest double. -/
def places : Nat := 128

/-- The product with the roots of a number, the square root first, whose digits are one. -/
def timesRoots (product number : Nat) : List Bool → Nat
  | [] => product
  | digit :: digits =>
    let root := Nat.sqrt (number <<< places)
    timesRoots (if digit then (product * root) >>> places else product) root digits

/-- The binary digits behind the point of a value below one. -/
def digitsBehindPoint (x : Binary) : List Bool :=
  let count := (-x.exponent).toNat
  (List.range count).map fun place => x.mantissa.testBit (count - 1 - place)

end Power

/-- The value of the format nearest to the power of `num / den`, which is at least one, with an
exponent below one. -/
def Binary.ofPower (format : BinaryFormat) (num den : Nat) (exponent : Binary) : Binary :=
  let one := 1 <<< Power.places
  .ofRatio format
    (Power.timesRoots one (num * one / den) (Power.digitsBehindPoint exponent)) one

end RoomDraw
