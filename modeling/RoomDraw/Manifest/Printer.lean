import RoomDraw.Manifest.Basic

/-!
# Texts of manifests

A manifest is written as one JSON object, either without any space or with every value on a line of
its own, indented by two blanks for each bracket around it. Empty arrays stay on their line.
-/

namespace RoomDraw

/-- How a manifest is laid out. -/
inductive Layout where
  | compact
  | pretty
deriving DecidableEq, Repr

namespace Layout

/-- The break before a value with so many brackets around it. -/
def lineBreak : Layout → Nat → List Char
  | compact, _ => []
  | pretty, depth => '\n' :: List.replicate (2 * depth) ' '

/-- What stands between a key and its value. -/
def colon : Layout → List Char
  | compact => [':']
  | pretty => [':', ' ']

/-- Written values between brackets, which have so many brackets around them. -/
def bracketed (layout : Layout) (opening closing : Char) (depth : Nat) :
    List (List Char) → List Char
  | [] => [opening, closing]
  | v :: vs =>
    opening :: layout.lineBreak (depth + 1) ++ v ++
      vs.flatMap (fun v => ',' :: layout.lineBreak (depth + 1) ++ v) ++
      layout.lineBreak depth ++ [closing]

end Layout

namespace Manifest

/-- A digit of the base sixteen. -/
def hexDigit (n : Nat) : Char :=
  if n < 10 then .ofNat ('0'.toNat + n) else .ofNat ('a'.toNat + (n - 10))

/-- A character as it stands in a string: controls, quotes and backslashes are escaped. -/
def escaped (c : Char) : List Char :=
  match c with
  | '"' => ['\\', '"']
  | '\\' => ['\\', '\\']
  | '\x08' => ['\\', 'b']
  | '\x0c' => ['\\', 'f']
  | '\n' => ['\\', 'n']
  | '\r' => ['\\', 'r']
  | '\t' => ['\\', 't']
  | c =>
    if c < ' ' then ['\\', 'u', '0', '0', hexDigit (c.toNat / 16), hexDigit (c.toNat % 16)]
    else [c]

/-- A string between quotes. -/
def string (s : String) : List Char := '"' :: s.toList.flatMap escaped ++ ['"']

def member (layout : Layout) (key : String) (value : List Char) : List Char :=
  string key ++ layout.colon ++ value

/-- An entry, with two brackets around it. -/
def entryText (layout : Layout) (e : CreationEntry) : List Char :=
  layout.bracketed '{' '}' 2
    [member layout "creator" (string e.creator),
     member layout "name" (string e.name),
     member layout "users" (layout.bracketed '[' ']' 3 (e.users.map string))]

/-- The characters of a manifest's text. -/
def chars (layout : Layout) (m : Manifest) : List Char :=
  layout.bracketed '{' '}' 0
    [member layout "creators"
      (layout.bracketed '[' ']' 1 (m.creators.map (entryText layout)))]

/-- The text of a manifest. -/
def toJson (layout : Layout) (m : Manifest) : String := .ofList (m.chars layout)

end Manifest

end RoomDraw
