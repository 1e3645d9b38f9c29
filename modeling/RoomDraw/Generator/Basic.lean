/-!
# Sources of words

All randomness enters through a generator: a state that yields a word and moves on. Everything
drawn is a function of the generator it starts from, so equal generators give equal rooms.
-/

namespace RoomDraw

/-- A state that yields uniform words, of 32 or of 64 bits. -/
class Generator (σ : Type) where
  next32 : σ → UInt32 × σ
  next64 : σ → UInt64 × σ

/-- A draw: a value that depends on the generator, and the generator left over. -/
abbrev Draw (σ α : Type) := StateM σ α

/-- A draw that may see no end, because it rejects words until one fits. From a generator on which
it never ends it has no value. -/
abbrev Draw? (σ α : Type) := StateT σ Option α

/-- A draw that always ends, as one that may not. -/
def settled {σ α : Type} (draw : Draw σ α) : Draw? σ α := fun g => some (draw g)

/-- Draws the next word of 32 bits. -/
def drawWord {σ : Type} [Generator σ] : Draw σ UInt32 := Generator.next32

/-- Draws the next word of 64 bits. -/
def drawLongWord {σ : Type} [Generator σ] : Draw σ UInt64 := Generator.next64

section Repetition

variable {σ α : Type} (draw : Draw? σ (Option α))

/-- Repeats a draw until it gives something, which it may never do. -/
def untilSome (g : σ) : Option (α × σ) := do
  match ← draw g with
  | (some a, g) => return (a, g)
  | (none, g) => by apply untilSome; exact g
partial_fixpoint

end Repetition

end RoomDraw
