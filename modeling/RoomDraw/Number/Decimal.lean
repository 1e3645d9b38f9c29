import RoomDraw.Number.Binary

/-!
# Decimal texts of binary values

Two ways to write a binary floating-point value in decimal: with a fixed number of places, and
with the fewest digits that still single the value out among all values of its format.
-/

namespace RoomDraw

/-! ### Fixed places -/

/-- A nonnegative quotient with two decimal places, rounded to the nearest hundredth of the exact
quotient, ties to even. -/
def hundredths (num den : Nat) : Nat := roundHalfEven (num * 100) den

/-- The text of a number of hundredths, with a point and two places. -/
def hundredthsText (n : Nat) : String :=
  let cents := n % 100
  s!"{n / 100}." ++ (if cents < 10 then "0" else "") ++ toString cents

/-! ### Fewest digits -/

/-- The value `digits * 10 ^ exponent`. -/
structure Decimal where
  digits : Nat
  exponent : Int
deriving DecidableEq, Repr

namespace Decimal

/-- The decimal `digits * 10 ^ exponent` without zeros at the end of its digits. -/
def trimmed (digits : Nat) (exponent : Int) : Decimal :=
  if 0 < digits ∧ digits % 10 = 0 then trimmed (digits / 10) (exponent + 1)
  else ⟨digits, exponent⟩
termination_by digits
decreasing_by omega

/-- Whether the nearest double is infinite: the decimal is not below the midpoint between the
greatest finite double and the next power of two. Decimals below `10 ^ 308` are never as great,
those from `10 ^ 309` on always. -/
def overflows (d : Decimal) : Bool :=
  let place := (toString d.digits).length + d.exponent
  if d.digits = 0 ∨ place ≤ 308 then false
  else if 310 ≤ place then true
  else (Nat.pow 2 1024 - Nat.pow 2 970) * Nat.pow 10 (-d.exponent).toNat ≤
    d.digits * Nat.pow 10 d.exponent.toNat

end Decimal

namespace Binary

/-- The decimal exponent of the leading digit: the greatest `k` with `10 ^ k ≤ num / den`, for a
positive quotient. The estimate from the binary length is never more than one off. -/
def leadingPlace (num den : Nat) : Int :=
  let estimate := (digitsBeforePoint num den - 1) * 30103 / 100000
  if atLeast (estimate + 1) then estimate + 1
  else if atLeast estimate then estimate
  else estimate - 1
where
  /-- Whether `10 ^ k ≤ num / den`. -/
  atLeast (k : Int) : Bool := den * Nat.pow 10 k.toNat ≤ num * Nat.pow 10 (-k).toNat

/-- Whether a decimal rounds to the value: it lies between the midpoints to the neighbouring
values, and may be a midpoint itself if the mantissa is even. The gap below a value with the least
mantissa of full length is half as wide as the gap above. -/
def readsBack (format : BinaryFormat) (x : Binary) (d : Decimal) : Bool :=
  let narrow := x.mantissa = Nat.pow 2 (format.precision - 1) ∧ format.minExponent < x.exponent
  -- everything in quarters of the unit in the last place
  let unit := (⟨1, x.exponent - 2⟩ : Binary).ratio
  let low := (if narrow then 4 * x.mantissa - 1 else 4 * x.mantissa - 2) * unit.1
  let high := (4 * x.mantissa + 2) * unit.1
  let num := d.digits * Nat.pow 10 d.exponent.toNat * unit.2
  let den := Nat.pow 10 (-d.exponent).toNat
  if x.mantissa % 2 = 0 then low * den ≤ num && num ≤ high * den
  else low * den < num && num < high * den

/-- The nearest decimal to the value, among those with the given place of the last digit that
round to the value; only the two neighbours of the value on that grid can. -/
def decimalAt (format : BinaryFormat) (x : Binary) (place : Int) : Option Decimal :=
  let num := x.ratio.1 * Nat.pow 10 (-place).toNat
  let den := x.ratio.2 * Nat.pow 10 place.toNat
  let nearest := roundHalfEven num den
  let other := if nearest = num / den then num / den + 1 else num / den
  if readsBack format x ⟨nearest, place⟩ then some ⟨nearest, place⟩
  else if readsBack format x ⟨other, place⟩ then some ⟨other, place⟩
  else none

/-- The decimal with the fewest digits that rounds to the value. Seventeen digits always do. -/
def shortest (format : BinaryFormat) (x : Binary) : Decimal :=
  if x.isZero then ⟨0, 0⟩
  else
    let lead := leadingPlace x.ratio.1 x.ratio.2
    let grids := (List.range 17).map fun (n : Nat) => lead - n
    let found := (grids.findSome? (decimalAt format x)).getD ⟨0, 0⟩
    .trimmed found.digits found.exponent

end Binary

/-! ### Layout -/

/-- How the fewest digits are laid out: numbers whose leading digit has a place from
`positionalFrom` to `positionalTo` are written with a point and at least one digit after it,
others with an exponent. -/
structure DecimalLayout where
  positionalFrom : Int
  positionalTo : Int
  /-- Written before an exponent that is not negative. -/
  exponentSign : String

def DecimalLayout.text (layout : DecimalLayout) (d : Decimal) : String :=
  let digits := (toString d.digits).toList
  let place := d.exponent + digits.length - 1
  if d.digits = 0 then "0.0"
  else if layout.positionalFrom ≤ place ∧ place ≤ layout.positionalTo then
    if 0 ≤ d.exponent then
      String.ofList (digits ++ List.replicate d.exponent.toNat '0') ++ ".0"
    else if 0 ≤ place then
      let whole := place.toNat + 1
      String.ofList (digits.take whole) ++ "." ++ String.ofList (digits.drop whole)
    else
      "0." ++ String.ofList (List.replicate ((-place).toNat - 1) '0' ++ digits)
  else
    let fraction := match digits.drop 1 with
      | [] => ""
      | rest => "." ++ String.ofList rest
    let exponent := if 0 ≤ place then layout.exponentSign ++ toString place else toString place
    String.ofList (digits.take 1) ++ fraction ++ "e" ++ exponent

end RoomDraw
