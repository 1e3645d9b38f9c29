import RoomDraw.Csv.Scanner

/-!
# Faults of a table

What can be wrong with a record, and how it is reported.
-/

namespace RoomDraw

namespace Csv

/-- The number of a record, counted from zero at the header, and its position. -/
structure Position where
  record : Nat
  cursor : Cursor
deriving DecidableEq, Repr

inductive Fault where
  /-- Reading on failed. -/
  | unreadable (message : String)
  /-- The record has another number of fields than the header. -/
  | fieldCount (place : Position) (found expected : Nat)
  /-- A field is not UTF-8 from some byte of it on. -/
  | invalidUtf8 (place : Position) (field : Nat) (byte : Nat)
  /-- Two columns have the name of the one that is wanted. -/
  | repeatedColumn (place : Position) (column : String)
deriving DecidableEq, Repr

namespace Fault

/-- The line of the record at fault, and zero if reading failed. -/
def line : Fault → Nat
  | .unreadable _ => 0
  | .fieldCount p _ _ | .invalidUtf8 p _ _ | .repeatedColumn p _ => p.cursor.line

def message : Fault → String
  | .unreadable message => message
  | .fieldCount p found expected =>
    s!"CSV error: record {p.record} (line: {p.cursor.line}, byte: {p.cursor.byte}): " ++
      s!"found record with {found} fields, but the previous record has {expected} fields"
  | .invalidUtf8 p field byte =>
    s!"CSV parse error: record {p.record} " ++
      s!"(line {p.cursor.line}, field: {field}, byte: {p.cursor.byte}): " ++
      s!"invalid utf-8: invalid UTF-8 in field {field} near byte index {byte}"
  | .repeatedColumn p column =>
    s!"CSV deserialize error: record {p.record} " ++
      s!"(line: {p.cursor.line}, byte: {p.cursor.byte}): duplicate field `{column}`"

end Fault

/-- The texts of the fields, counted from the given number on, or the first that is not UTF-8. -/
def decodeFields (p : Position) : Nat → List Bytes → Except Fault (List String)
  | _, [] => .ok []
  | index, field :: fields =>
    match Utf8.decode? field with
    | none => .error (.invalidUtf8 p index (Utf8.validLength field))
    | some text => (decodeFields p (index + 1) fields).map (text :: ·)

/-- The texts of a record's fields. -/
def Record.decode (number : Nat) (r : Record) : Except Fault (List String) :=
  decodeFields ⟨number, r.position⟩ 0 r.fields

end Csv

end RoomDraw
