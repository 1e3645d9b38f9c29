import RoomDraw.Csv.Feed

/-!
# Records of a table

A table is a sequence of records of fields. Commas separate fields; a carriage return, a line
feed, or both end a record; lines without any character are no records. A field that begins with a
double quote runs to the closing quote, and a quote inside it is written twice. Nothing is
trimmed: a quote inside a bare field stands for itself, and bytes after a closing quote belong to
the field.

The scanner takes one byte at a time and keeps the records that are complete. A record's position
is taken right behind the byte that ended the one before.
-/

namespace RoomDraw

namespace Csv

def quote : UInt8 := 0x22

def comma : UInt8 := 0x2C

def lineFeed : UInt8 := 0x0A

def carriageReturn : UInt8 := 0x0D

/-- Whether a byte ends a record outside quotes. -/
def endsRecord (b : UInt8) : Bool := b == lineFeed || b == carriageReturn

/-- A place in the input: how many bytes lie before it, and its line, counted from one by the line
feeds before it. -/
structure Cursor where
  byte : Nat
  line : Nat
deriving DecidableEq, Repr

namespace Cursor

/-- The front of the input. -/
def start : Cursor := ⟨0, 1⟩

/-- The place behind one more byte. -/
def after (c : Cursor) (b : UInt8) : Cursor :=
  ⟨c.byte + 1, if b == lineFeed then c.line + 1 else c.line⟩

end Cursor

/-- A complete record and the place where the scanner began to look for it. -/
structure Record where
  position : Cursor
  fields : List Bytes
deriving DecidableEq, Repr

/-- What the scanner is in the middle of. -/
inductive Mode where
  /-- Before a record: line ends are passed over. -/
  | between
  /-- Behind a comma. -/
  | fieldStart
  /-- In a field, outside quotes. -/
  | bare
  | quoted
  /-- Behind a quote that closes the field, unless it is the first of two. -/
  | quoteSeen
deriving DecidableEq, Repr

structure Scanner where
  mode : Mode
  /-- The bytes of the field so far. -/
  field : Array UInt8
  /-- The fields of the record so far. -/
  fields : Array Bytes
  /-- The position of the record. -/
  opened : Cursor
  /-- The place of the next byte. -/
  cursor : Cursor
  records : Array Record

namespace Scanner

/-- The scanner before the first byte, of which so many are passed over. -/
def init (skipped : Nat) : Scanner :=
  ⟨.between, #[], #[], .start, { Cursor.start with byte := skipped }, #[]⟩

/-- Adds a byte to the field. -/
def push (s : Scanner) (mode : Mode) (b : UInt8) : Scanner :=
  { s with mode, field := s.field.push b, cursor := s.cursor.after b }

/-- Passes over a byte. -/
def pass (s : Scanner) (mode : Mode) (b : UInt8) : Scanner :=
  { s with mode, cursor := s.cursor.after b }

/-- Completes the field, at a comma. -/
def endField (s : Scanner) (b : UInt8) : Scanner :=
  { s with
    mode := .fieldStart
    field := #[]
    fields := s.fields.push s.field.toList
    cursor := s.cursor.after b }

/-- Completes the field and the record; the next record is looked for from the given place on. -/
def complete (s : Scanner) (cursor : Cursor) : Scanner :=
  { mode := .between
    field := #[]
    fields := #[]
    opened := cursor
    cursor
    records := s.records.push ⟨s.opened, (s.fields.push s.field.toList).toList⟩ }

/-- Takes a byte at the front of a field. -/
def startField (s : Scanner) (b : UInt8) : Scanner :=
  if b == quote then s.pass .quoted b
  else if b == comma then s.endField b
  else if endsRecord b then s.complete (s.cursor.after b)
  else s.push .bare b

/-- Takes a byte. -/
def step (s : Scanner) (b : UInt8) : Scanner :=
  match s.mode with
  | .between => if endsRecord b then s.pass .between b else s.startField b
  | .fieldStart => s.startField b
  | .bare =>
    if b == comma then s.endField b
    else if endsRecord b then s.complete (s.cursor.after b)
    else s.push .bare b
  | .quoted => if b == quote then s.pass .quoteSeen b else s.push .quoted b
  | .quoteSeen =>
    if b == quote then s.push .quoted b
    else if b == comma then s.endField b
    else if endsRecord b then s.complete (s.cursor.after b)
    else s.push .bare b

/-- Takes the end of the input, which completes a record that has begun. -/
def finish (s : Scanner) : Scanner :=
  match s.mode with
  | .between => s
  | _ => s.complete s.cursor

end Scanner

/-- The complete records of a feed. A record in the middle of which reading fails is not
complete; one at the end of the input is. -/
def records (feed : Feed) : List Record :=
  let skipped := feed.markLength
  let scanned := (feed.bytes.drop skipped).foldl Scanner.step (.init skipped)
  match feed.ending with
  | .complete => scanned.finish.records.toList
  | .failed _ => scanned.records.toList

end Csv

end RoomDraw
