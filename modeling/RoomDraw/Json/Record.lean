import RoomDraw.Json.Skip

/-!
# Arrays and records in JSON

Readers for values of an expected form. A record is written as an object, whose members may come in
any order and may be joined by members that the record does not know, or as the array of its fields
in their order.
-/

namespace RoomDraw

namespace Json

/-! ### Values of another form -/

/-- Reads a word that stands for a value. -/
def wordFor {α : Type} (letters : String) (value : α) : Reader α := fun s =>
  (word letters.toList s).map fun (_, rest) => (value, rest)

/-- The fault that the next value is not of the expected form. A value that is neither array nor
object is read for it, and what is wrong with the value itself comes first. -/
def mismatch {α : Type} (expected : String) (s : List Char) : Except Fault α := do
  let (found, rest) ← look s
  fault (.wrongForm found expected) rest
where
  look : Reader Found
    | [] => fault .valueExpected []
    | c :: rest =>
      if c = 'n' then wordFor "ull" .null rest
      else if c = 't' then wordFor "rue" (.boolean true) rest
      else if c = 'f' then wordFor "alse" (.boolean false) rest
      else if c = '"' then (readText [] rest).map fun (text, rest) => (.text text, rest)
      else if c = '-' ∨ c.isDigit then readNumber (c :: rest)
      else if c = '[' then .ok (.array, c :: rest)
      else if c = '{' then .ok (.object, c :: rest)
      else faultAhead .valueExpected (c :: rest)

/-! ### Values without parts -/

def text (expected : String) : Reader String := fun s =>
  match skipSpace s with
  | [] => fault .endInValue []
  | '"' :: rest => readText [] rest
  | s => mismatch expected s

/-- Reads a truth value. -/
def boolean : Reader Bool := fun s =>
  match skipSpace s with
  | [] => fault .endInValue []
  | 't' :: rest => wordFor "rue" true rest
  | 'f' :: rest => wordFor "alse" false rest
  | s => mismatch "a boolean" s

/-- Reads a natural number that fits a word of 64 bits. -/
def natural (expected : String) : Reader Nat := fun s =>
  match skipSpace s with
  | [] => fault .endInValue []
  | c :: rest =>
    if c = '-' ∨ c.isDigit then do
      let (found, rest) ← readNumber (c :: rest)
      match found with
      | .natural n => return (n, rest)
      | .negative n => fault (.wrongValue (.negative n) expected) rest
      | found => fault (.wrongForm found expected) rest
    else mismatch expected (c :: rest)

/-- Reads a value or the word that stands for none. -/
def optional {α : Type} (value : Reader α) : Reader (Option α) := fun s =>
  match skipSpace s with
  | 'n' :: rest => wordFor "ull" none rest
  | s => (value s).map fun (a, rest) => (some a, rest)

/-! ### The members of arrays and objects -/

/-- Goes to the next element of an array, if there is one: to its first character, or to the
bracket that closes the array. -/
def nextElement (first : Bool) : Reader Bool := fun s =>
  match skipSpace s with
  | [] => fault .endInArray []
  | c :: rest =>
    if c = ']' then .ok (false, c :: rest)
    else if first then .ok (true, c :: rest)
    else if c = ',' then
      match skipSpace rest with
      | [] => fault .endInValue []
      | ']' :: rest => faultAhead .commaAtEnd (']' :: rest)
      | rest => .ok (true, rest)
    else faultAhead .arrayGoesOn (c :: rest)

def closeArray : Reader Unit := fun s =>
  match skipSpace s with
  | [] => fault .endInArray []
  | ']' :: rest => .ok ((), rest)
  | ',' :: rest =>
    match skipSpace rest with
    | ']' :: rest => faultAhead .commaAtEnd (']' :: rest)
    | rest => faultAhead .textGoesOn rest
  | s => faultAhead .textGoesOn s

/-- Goes to the next key of an object, if there is one: behind its opening quote, or to the bracket
that closes the object. -/
def nextKey (first : Bool) : Reader Bool := fun s =>
  match skipSpace s with
  | [] => fault .endInObject []
  | c :: rest =>
    if c = '}' then .ok (false, c :: rest)
    else if first then quote (c :: rest)
    else if c = ',' then
      match skipSpace rest with
      | [] => fault .endInValue []
      | '}' :: rest => faultAhead .commaAtEnd ('}' :: rest)
      | rest => quote rest
    else faultAhead .objectGoesOn (c :: rest)
where
  quote : Reader Bool
    | '"' :: rest => .ok (true, rest)
    | s => faultAhead .keyNotText s

def closeObject : Reader Unit := fun s =>
  match skipSpace s with
  | [] => fault .endInObject []
  | '}' :: rest => .ok ((), rest)
  | ',' :: rest => faultAhead .commaAtEnd (',' :: rest)
  | s => faultAhead .textGoesOn s

/-- Reads the elements of an array, at most `bound` of them, after those read already, of which the
last comes first. -/
def elements {α : Type} (item : Reader α) : Nat → List α → Reader (List α)
  | 0, _, s => fault .endInArray s
  | bound + 1, before, s => do
    match ← nextElement before.isEmpty s with
    | (false, s) => return (before.reverse, s)
    | (true, s) =>
      let (a, s) ← item s
      elements item bound (a :: before) s

/-- Reads an array, in a text of fewer than `bound` characters. -/
def array {α : Type} (bound : Nat) (item : Reader α) : Reader (List α) := fun s =>
  match skipSpace s with
  | [] => fault .endInValue []
  | '[' :: rest => do
    let (as, s) ← elements item bound [] rest
    let ((), s) ← closeArray s
    return (as, s)
  | s => mismatch "a sequence" s

/-! ### Records -/

/-- A field of a record that is being filled in. -/
structure Field (σ : Type) where
  name : String
  /-- Whether the field has been filled in. -/
  given : σ → Bool
  /-- Reads the field into the record. -/
  fill : σ → Reader σ
  /-- Whether the record is not complete without the field. -/
  required : Bool

/-- Why the fields of a record cannot be read: a fault of the text, or members that do not make the
record. The latter is reported where the text stands after an attempt to close the record. -/
inductive Misread where
  | fault (f : Fault)
  | misfit (cause : Cause) (rest : List Char)

def part {α : Type} : Except Fault α → Except Misread α
  | .ok a => .ok a
  | .error f => .error (.fault f)

/-- Closes the record after its fields, or after what was wrong with them. -/
def closed {σ : Type} (close : Reader Unit) :
    Except Misread (σ × List Char) → Except Fault (σ × List Char)
  | .ok (record, s) => do
    let ((), s) ← close s
    return (record, s)
  | .error (.fault f) => .error f
  | .error (.misfit cause s) =>
    match close s with
    | .ok ((), s) => fault cause s
    | .error f => fault cause f.rest

/-- What is wrong with a record in which a field is missing, if one is. -/
def missing? {σ : Type} (fields : List (Field σ)) (record : σ) : Option Cause :=
  (fields.find? fun f => f.required && !f.given record).map fun f => .fieldMissing f.name

/-- Reads the members of an object into a record, at most `bound` of them. -/
def members {σ : Type} (fields : List (Field σ)) (skip : Reader Unit) :
    Nat → Bool → σ → List Char → Except Misread (σ × List Char)
  | 0, _, _, s => part (fault .endInObject s)
  | bound + 1, first, record, s => do
    match ← part (nextKey first s) with
    | (false, s) =>
      match missing? fields record with
      | some cause => .error (.misfit cause s)
      | none => return (record, s)
    | (true, s) =>
      let (name, s) ← part (readText [] s)
      match fields.find? (·.name == name) with
      | some field =>
        if field.given record then .error (.misfit (.fieldRepeated name) s)
        else
          let (record, s) ← part (afterColon (field.fill record) s)
          members fields skip bound false record s
      | none =>
        let ((), s) ← part (afterColon skip s)
        members fields skip bound false record s
where
  /-- Reads a value from behind a colon. -/
  afterColon {α : Type} (value : Reader α) : Reader α := fun s => do
    let ((), s) ← keyThen (fun s => .ok ((), s)) s
    value s

/-- Reads the elements of an array into the fields of a record, in their order. -/
def inOrder {σ : Type} (expected : String) :
    Nat → List (Field σ) → σ → List Char → Except Misread (σ × List Char)
  | _, [], record, s => .ok (record, s)
  | read, field :: fields, record, s => do
    match ← part (nextElement (read == 0) s) with
    | (false, s) => .error (.misfit (.wrongLength read expected) s)
    | (true, s) =>
      let (record, s) ← part (field.fill record s)
      inOrder expected (read + 1) fields record s

/-- The description of a record with so many fields. -/
def withFields (expected : String) (count : Nat) : String :=
  s!"{expected} with {count} element" ++ if count = 1 then "" else "s"

/-- Reads a record, in a text of fewer than `bound` characters, into one that has no fields yet. -/
def record {σ : Type} (expected : String) (fields : List (Field σ)) (bound : Nat) (blank : σ) :
    Reader σ := fun s =>
  match skipSpace s with
  | [] => fault .endInValue []
  | '[' :: rest =>
    closed closeArray (inOrder (withFields expected fields.length) 0 fields blank rest)
  | '{' :: rest => closed closeObject (members fields (skipValue bound) bound true blank rest)
  | s => mismatch expected s

/-! ### Documents -/

/-- Reads a text that holds one value, with nothing but space around it. The value is read with the
length of the text as a bound on everything in it. -/
def document {α : Type} (value : Nat → Reader α) (source : String) : Except Fault α := do
  let s := source.toList
  let (a, rest) ← value (s.length + 1) s
  match skipSpace rest with
  | [] => return a
  | rest => faultAhead .textGoesOn rest

end Json

end RoomDraw
