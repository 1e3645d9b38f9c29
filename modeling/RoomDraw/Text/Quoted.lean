import RoomDraw.Text.Shapeless

/-!
# Quoted texts

A text between double quotes, in which every character can be seen: quotes and backslashes are
preceded by a backslash, and what has no shape of its own is written by name or by code point.
-/

namespace RoomDraw

/-- A character as it stands in a quoted text. -/
def quotedChar (c : Char) : String :=
  match c with
  | '\x00' => "\\0"
  | '\t' => "\\t"
  | '\r' => "\\r"
  | '\n' => "\\n"
  | '"' => "\\\""
  | '\\' => "\\\\"
  | _ =>
    if isShapeless c then
      "\\u\x7b" ++ String.ofList (Nat.toDigits 16 c.toNat) ++ "\x7d"
    else c.toString

/-- The text between quotes. -/
def quoted (s : String) : String := "\"" ++ String.join (s.toList.map quotedChar) ++ "\""

end RoomDraw
