/-!
# UTF-8

Byte strings and the text they spell. `decode?` reads a byte string that is well formed as a
whole. Where it is not, `validLength` counts the bytes before the first fault, and `lossy` reads
on, with one replacement character for each ill-formed piece.
-/

namespace RoomDraw

/-- A byte string, such as the contents of a file or the name of one. -/
abbrev Bytes := List UInt8

namespace Utf8

def encode (s : String) : Bytes := s.toByteArray.data.toList

/-- The text that the bytes spell, if they are well formed. -/
def decode? (bytes : Bytes) : Option String := String.fromUTF8? bytes.toByteArray

/-- The number of bytes that characters take. -/
def width (s : List Char) : Nat := s.foldr (fun c n => c.utf8Size + n) 0

/-! ### Ill-formed input -/

/-- The ranges in which the bytes after a lead byte must fall, and `none` for a byte that leads
nothing. -/
def following (lead : UInt8) : Option (List (UInt8 × UInt8)) :=
  if lead < 0x80 then some []
  else if lead < 0xC2 then none
  else if lead < 0xE0 then some [(0x80, 0xBF)]
  else if lead = 0xE0 then some [(0xA0, 0xBF), (0x80, 0xBF)]
  else if lead = 0xED then some [(0x80, 0x9F), (0x80, 0xBF)]
  else if lead < 0xF0 then some [(0x80, 0xBF), (0x80, 0xBF)]
  else if lead = 0xF0 then some [(0x90, 0xBF), (0x80, 0xBF), (0x80, 0xBF)]
  else if lead < 0xF4 then some [(0x80, 0xBF), (0x80, 0xBF), (0x80, 0xBF)]
  else if lead = 0xF4 then some [(0x80, 0x8F), (0x80, 0xBF), (0x80, 0xBF)]
  else none

/-- How many leading bytes fall in the ranges, one range to a byte. -/
def matching : List (UInt8 × UInt8) → Bytes → Nat
  | (lo, hi) :: ranges, b :: rest => if lo ≤ b ∧ b ≤ hi then matching ranges rest + 1 else 0
  | _, _ => 0

/-- A lead byte together with those after it that can belong to it: how many they are, and
whether they spell a character. -/
def piece (lead : UInt8) (rest : Bytes) : Nat × Bool :=
  match following lead with
  | none => (1, false)
  | some ranges => let n := matching ranges rest; (n + 1, n == ranges.length)

/-- How many bytes stand before the first that belongs to no character. -/
def validLength : Bytes → Nat
  | [] => 0
  | lead :: rest =>
    match piece lead rest with
    | (width, true) => width + validLength (rest.drop (width - 1))
    | (_, false) => 0
termination_by bytes => bytes.length
decreasing_by simp only [List.length_cons, List.length_drop]; omega

/-- The text of the bytes, in which every longest piece that could have begun a character but
does not spell one is shown as U+FFFD. -/
def lossy (bytes : Bytes) : String :=
  match decode? bytes with
  | some text => text
  | none => String.join (pieces bytes)
where
  pieces : Bytes → List String
    | [] => []
    | lead :: rest =>
      match piece lead rest with
      | (width, true) =>
        (decode? (lead :: rest.take (width - 1))).getD "" :: pieces (rest.drop (width - 1))
      | (width, false) => "\uFFFD" :: pieces (rest.drop (width - 1))
  termination_by bytes => bytes.length
  decreasing_by all_goals simp only [List.length_cons, List.length_drop]; omega

end Utf8

end RoomDraw
