/-!
# How a table may be written

A table is a list of records, the header first, and a record is a list of fields. There are many
texts for one table: a field may stand in quotes although it needs none, a line may end in three
ways, and lines without any character may stand everywhere between the records.
-/

namespace RoomDraw

namespace Csv

/-- A character that would end a bare field, or quote it. -/
def Special (c : Char) : Prop := c = ',' ∨ c = '"' ∨ c = '\n' ∨ c = '\r'

instance : DecidablePred Special := fun _ => inferInstanceAs (Decidable (_ ∨ _))

/-- The characters of a field inside quotes, where a quote is written twice. -/
def doubleQuotes (field : List Char) : List Char :=
  field.flatMap fun c => if c = '"' then ['"', '"'] else [c]

/-- The texts of a field. -/
inductive FieldText (field : String) : List Char → Prop where
  | bare (h : ∀ c ∈ field.toList, ¬Special c) : FieldText field field.toList
  | quoted : FieldText field ('"' :: (doubleQuotes field.toList ++ ['"']))

/-- The texts of the fields of a record, of which there is one at least. -/
inductive FieldsText : List String → List Char → Prop where
  | last {field text} : FieldText field text → FieldsText [field] text
  | cons {field fields text rest} : FieldText field text → FieldsText fields rest →
      FieldsText (field :: fields) (text ++ ',' :: rest)

/-- The texts of a record. Nothing at all is no text of a record: the field of a record that has
only one, and an empty one, stands in quotes. -/
def RecordText (fields : List String) (text : List Char) : Prop :=
  FieldsText fields text ∧ text ≠ []

inductive LineEnd : List Char → Prop where
  | lineFeed : LineEnd ['\n']
  | carriageReturn : LineEnd ['\r']
  | both : LineEnd ['\r', '\n']

/-- The texts of any number of lines without a character, which are only the ends of lines. -/
inductive EmptyLines : List Char → Prop where
  | none : EmptyLines []
  | cons {lineEnd rest} : LineEnd lineEnd → EmptyLines rest → EmptyLines (lineEnd ++ rest)

/-- The texts of records. A line ends behind each of them, save perhaps the last one, and empty
lines may follow. -/
inductive RecordsText : List (List String) → List Char → Prop where
  | none : RecordsText [] []
  | unended {fields text} : RecordText fields text → RecordsText [fields] text
  | cons {fields records text lineEnd gap rest} : RecordText fields text → LineEnd lineEnd →
      EmptyLines gap → RecordsText records rest →
      RecordsText (fields :: records) (text ++ (lineEnd ++ (gap ++ rest)))

/-- The texts of a table: its records, and empty lines before them. The first character is not a
byte-order mark, which belongs to no field; a first field that begins with one stands in quotes. -/
def TableText (records : List (List String)) (text : List Char) : Prop :=
  (∃ gap rest, EmptyLines gap ∧ RecordsText records rest ∧ text = gap ++ rest) ∧
    text.head? ≠ some '\uFEFF'

end Csv

end RoomDraw
