import RoomDraw.Number.Binary
import RoomDraw.Seat.Index
import Std.Data.HashSet

/-!
# Selections of seats

An ordered selection of distinct seats, out of seats numbered from zero. There are three methods,
and which one serves depends on how many seats are wanted and how many there are. Two of them are
a function of a fixed number of index draws, `byReplacement` and `byShuffle`; the third draws
until it has seen enough different seats.
-/

namespace RoomDraw

/-- The ways to select seats. -/
inductive SelectionMethod where
  | replacement
  | shuffle
  | rejection
deriving DecidableEq, Repr

namespace Selection

/-! ### Selection by replacement -/

/-- The bounds of the draws: one more each time, the last being the number of seats. -/
def replacementBounds (seats amount : Nat) : List Nat :=
  (List.range amount).map (seats - amount + · + 1)

/-- Takes in the drawn seat. If it is in the list already, the seat just below the bound, which
cannot be, takes its place there. -/
def replaceAndPush (newest : Nat) (chosen : List Nat) (drawn : Nat) : List Nat :=
  chosen.replace drawn newest ++ [drawn]

/-- The selection of a sequence of draws. The first of them is below `newest + 1`. -/
def byReplacement (newest : Nat) (chosen : List Nat) : List Nat → List Nat
  | [] => chosen
  | drawn :: draws => byReplacement (newest + 1) (replaceAndPush newest chosen drawn) draws

/-! ### Selection by shuffling -/

/-- The bounds of the draws: one less each time, the first being the number of seats. -/
def shuffleBounds (seats amount : Nat) : List Nat := (List.range amount).map (seats - ·)

/-- Exchanges the seat at each place, from `place` on, with the one so many places further as the
draw says. -/
def shuffle (place : Nat) (order : Array Nat) : List Nat → Array Nat
  | [] => order
  | drawn :: draws => shuffle (place + 1) (order.swapIfInBounds place (place + drawn)) draws

/-- The selection of a sequence of draws: the places that the draws have filled. -/
def byShuffle (seats : Nat) (draws : List Nat) : List Nat :=
  ((shuffle 0 (Array.range seats) draws).extract 0 draws.length).toList

/-! ### Selection by rejection -/

variable {σ : Type} [Generator σ]

def unseen? (seats : Nat) (seen : Std.HashSet Nat) : Draw? σ (Option Nat) := do
  let seat ← evenIndexBelow seats
  return if seen.contains seat then none else some seat

/-- Draws seats and keeps those not yet seen, until no more are wanted. -/
def untilDistinct (seats : Nat) : Nat → Std.HashSet Nat → Draw? σ (List Nat)
  | 0, _ => return []
  | wanted + 1, seen => do
    let seat ← untilSome (unseen? seats seen)
    return seat :: (← untilDistinct seats wanted (seen.insert seat))

end Selection

/-! ### Choice of a method -/

namespace SelectionMethod

/-- From this many seats on, the costs that the thresholds weigh are different. -/
def largeRoster : Nat := 500000

/-- From this many wanted seats on, shuffling is weighed against rejection. -/
def largeAmount : Nat := 163

private def single (num den : Nat) : Binary := .ofRatio .single num den

/-- Below this many seats, in single precision, shuffling serves an amount that is not large. -/
def shortThreshold (large : Bool) (amount : Nat) : Binary :=
  let slope := if large then single 8 45 else single 16 10
  let base := if large then single 70 9 else single 10 1
  let a := single amount 1
  ((base.add .single (slope.mul .single a)).mul .single a)

/-- Below this many seats, in single precision, shuffling serves a large amount. -/
def longThreshold (large : Bool) (amount : Nat) : Binary :=
  (if large then single 330 9 else single 270 1).mul .single (single amount 1)

/-- The method that selects an amount of seats. Up to eleven are always selected by
replacement. -/
def choose (seats amount : Nat) : SelectionMethod :=
  let large : Bool := decide (largeRoster ≤ seats)
  if amount < largeAmount then
    if 11 < amount ∧ (single seats 1).lt (shortThreshold large amount) then .shuffle
    else .replacement
  else if (single seats 1).lt (longThreshold large amount) then .shuffle
  else .rejection

end SelectionMethod

variable {σ : Type} [Generator σ]

def selectSeatsBy (method : SelectionMethod) (seats amount : Nat) : Draw? σ (List Nat) :=
  match method with
  | .replacement => do
    let draws ← settled ((Selection.replacementBounds seats amount).mapM indexBelow)
    return Selection.byReplacement (seats - amount) [] draws
  | .shuffle => do
    let draws ← settled ((Selection.shuffleBounds seats amount).mapM indexBelow)
    return Selection.byShuffle seats draws
  | .rejection => Selection.untilDistinct seats amount ∅

/-- Selects an amount of distinct seats in random order. -/
def selectSeats (seats amount : Nat) : Draw? σ (List Nat) :=
  selectSeatsBy (.choose seats amount) seats amount

end RoomDraw
