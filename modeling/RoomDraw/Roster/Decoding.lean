import RoomDraw.Csv.Fault
import RoomDraw.Roster.Basic

/-!
# Rosters from tables

The header of the table has to name the column of the users; every further record is a user. The
first fault ends the decoding, but the users decoded before it are known.
-/

namespace RoomDraw

namespace Roster

/-- The users decoded, and the fault that ended the decoding early, if any. -/
structure Decoding where
  users : Array String
  error : Option RosterError
deriving Repr

namespace Decoding

def toExcept (d : Decoding) : Except RosterError Roster :=
  match d.error with
  | none => .ok ⟨d.users⟩
  | some e => .error e

end Decoding

def faultError (f : Csv.Fault) : RosterError := .badRow f.line f.message

/-- The user of a record, whose number is given. Of two faults the first in this order is found:
the number of fields, a field that is not UTF-8, a second column of users. -/
def rowUser (header : List String) (number : Nat) (r : Csv.Record) : Except Csv.Fault String :=
  if r.fields.length ≠ header.length then
    .error (.fieldCount ⟨number, r.position⟩ r.fields.length header.length)
  else do
    let fields ← r.decode number
    match (header.zip fields).filter (·.1 == usernameColumn) with
    | [(_, user)] => return user
    | _ => .error (.repeatedColumn ⟨number, r.position⟩ usernameColumn)

/-- Decodes the records after the header, up to the first fault. -/
def decodeRows (header : List String) (ending : FeedEnd) :
    Nat → Array String → List Csv.Record → Decoding
  | _, users, [] =>
    match ending with
    | .complete => ⟨users, none⟩
    | .failed message => ⟨users, some (faultError (.unreadable message))⟩
  | number, users, r :: rs =>
    match rowUser header number r with
    | .ok user => decodeRows header ending (number + 1) (users.push user) rs
    | .error fault => ⟨users, some (faultError fault)⟩

/-- Decodes the table that a feed hands out. A table without records has an empty header. -/
def decode (feed : Feed) : Decoding :=
  let feed := feed.effective
  match Csv.records feed with
  | [] =>
    match feed.ending with
    | .complete => ⟨#[], some .missingColumn⟩
    | .failed message => ⟨#[], some (faultError (.unreadable message))⟩
  | header :: rows =>
    match header.decode 0 with
    | .error fault => ⟨#[], some (faultError fault)⟩
    | .ok names =>
      if names.contains usernameColumn then decodeRows names feed.ending 1 #[] rows
      else ⟨#[], some .missingColumn⟩

/-- The roster of a feed, or the first fault. -/
def ofFeed (feed : Feed) : Except RosterError Roster := (decode feed).toExcept

/-- The roster of a table in one text. -/
def ofCsv (text : String) : Except RosterError Roster := ofFeed (.ofBytes (Utf8.encode text))

end Roster

end RoomDraw
