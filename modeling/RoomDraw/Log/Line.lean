import RoomDraw.Log.Filter
import RoomDraw.Text.Quoted

/-!
# Log lines

An event in one line: its level, the path of the part that reports it, its message, and its fields.
-/

namespace RoomDraw

namespace Log

/-- Numbers from a hundred-thousandth to below ten to the sixteenth have no exponent. -/
def realLayout : DecimalLayout := ⟨-5, 15, ""⟩

def valueText : FieldValue → String
  | .natural n => toString n
  | .real x => realLayout.text (x.shortest .double)
  | .plain s => s
  | .text s => quoted s

def line (e : Event) : String :=
  e.level.name ++ " " ++ target e ++ ": " ++ e.message ++
    String.join (e.fields.map fun (name, value) => " " ++ name ++ "=" ++ valueText value)

/-- The lines of the events that a filter lets pass. -/
def lines (f : Filter) (events : List Event) : List String := (events.filter f.enables).map line

end Log

end RoomDraw
