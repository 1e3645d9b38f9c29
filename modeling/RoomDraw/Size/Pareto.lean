import RoomDraw.Generator.Basic
import RoomDraw.Number.Power
import RoomDraw.Size.Basic

/-!
# Draws of room sizes

Room sizes follow a Pareto distribution with the shape at which a fifth of the rooms hold four
fifths of the members. One attempt uses one 64-bit word, whether a size comes of it or not.
-/

namespace RoomDraw

/-- The least draw. -/
def paretoScale : Binary := .ofNat .double 1

/-- The shape of the distribution; the larger it is, the rarer are large rooms. -/
def paretoShape : Binary := .ofRatio .double 1161 1000

/-- The exponent of the inverted distribution. -/
def paretoExponent : Binary := .div .double (.ofNat .double 1) paretoShape

/-- The number of parts of the unit interval, one of which is drawn. -/
def unitParts : Nat := Nat.pow 2 53

/-- How many parts of the unit interval a word stands for, from one part to all of them: its upper
53 bits tell. -/
def unitDraw (word : UInt64) : Nat := (word >>> 11).toNat + 1

/-- The draw of a word, by inversion of the distribution. -/
def paretoDraw (word : UInt64) : Double :=
  let inverse := Binary.ofPower .double unitParts (unitDraw word) paretoExponent
  .ofBits (paretoScale.mul .double inverse).toBits

variable {σ : Type} [Generator σ]

/-- One attempt to draw a size for a room among so many users. -/
def drawSize (users : Nat) : Draw σ (Option RoomSize) := do
  return clampDraw (paretoDraw (← drawLongWord)) users

/-- The sizes that a number of attempts give, in the order in which they were drawn. -/
def drawSizes (users attempts : Nat) : Draw σ (List RoomSize) := do
  return (← (List.replicate attempts users).mapM drawSize).reduceOption

end RoomDraw
