import RoomDraw.Generator.Basic

/-!
# Scripted words

A generator that repeats a given list of 64-bit words for ever. A 32-bit word is the low half of
the next one, which is then used up.
-/

namespace RoomDraw

/-- A list of words to repeat, and the place of the next one. -/
structure Script where
  words : Array UInt64
  place : Nat
deriving DecidableEq, Repr

namespace Script

/-- The script at its first word. -/
def ofList (words : List UInt64) : Script := ⟨words.toArray, 0⟩

/-- The next word; an empty script yields zeros. -/
def next (s : Script) : UInt64 × Script :=
  (s.words.getD s.place 0,
    { s with place := if s.place + 1 < s.words.size then s.place + 1 else 0 })

instance : Generator Script where
  next32 s := (s.next.1.toUInt32, s.next.2)
  next64 s := s.next

end Script

end RoomDraw
