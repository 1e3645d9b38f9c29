import RoomDraw.Generator.Basic

/-!
# Bounded indices

Uniform indices below a bound, made from 32-bit words. `indexBelow` corrects the bias of the
multiplication with the carry of one more word and always ends; `evenIndexBelow` rejects words
until one is free of bias, so that it may never end.
-/

namespace RoomDraw

variable {σ : Type} [Generator σ]

/-- The number of 32-bit words. -/
def wordCount : Nat := UInt32.size

/-- An index below the bound: the high part of a word times the bound. If the low part is so large
that the product of a second word could carry into the high part, that word is drawn. -/
def indexBelow (bound : Nat) : Draw σ Nat := do
  let word ← drawWord
  let product := word.toNat * bound
  let high := product / wordCount
  let low := product % wordCount
  if wordCount - bound < low then
    let more ← drawWord
    return if wordCount ≤ low + more.toNat * bound / wordCount then high + 1 else high
  else
    return high

/-- The index below the bound of a word, if it is free of bias: the high part of the word times the
bound, unless the low part is among the few that would favour some index. -/
def evenIndex? (bound : Nat) : Draw σ (Option Nat) := do
  let product := (← drawWord).toNat * bound
  return if (wordCount - bound) % bound ≤ product % wordCount then some (product / wordCount)
    else none

/-- An index below the bound: that of the first word that is free of bias. -/
def evenIndexBelow (bound : Nat) : Draw? σ Nat := untilSome (settled (evenIndex? bound))

end RoomDraw
