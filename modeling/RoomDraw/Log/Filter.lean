import RoomDraw.Event
import RoomDraw.Log.Pattern
import RoomDraw.Settings.Environment

/-!
# Log filters

Which events are logged. A filter is a list of directives, each of which names a level and may be
restricted to the parts of the program whose path begins with a text, and to events that have
certain fields. The most specific directive that concerns an event decides.
-/

namespace RoomDraw

namespace Log

/-- The path of the part of the program that reports an event. -/
def target (e : Event) : String := "room_seed::" ++ e.part

/-- The name under which every event has its message as a field. -/
def messageField : String := "message"

/-- A directive. Without a level it silences what it concerns. -/
structure Directive where
  target : Option String
  fields : List String
  level : Option Level
deriving DecidableEq, Repr

namespace Directive

/-- Whether the directive says something about an event. -/
def concerns (d : Directive) (e : Event) : Bool :=
  (match d.target with
    | none => true
    | some t => t.toList.isPrefixOf (Log.target e).toList) &&
  d.fields.all fun name => name == messageField || e.fields.any (·.1 == name)

/-- Whether the directive lets an event pass that it concerns. -/
def allows (d : Directive) (e : Event) : Bool :=
  match d.level with
  | none => false
  | some l => e.level.rank ≤ l.rank

/-- Whether a directive comes before another: it has a target and the other has none, or a longer
one, or more fields, or is later in the order of texts. -/
def before (a b : Directive) : Bool :=
  let targetLength (d : Directive) : Nat := ((d.target.map String.utf8ByteSize).map (· + 1)).getD 0
  if targetLength a ≠ targetLength b then targetLength b < targetLength a
  else if a.fields.length ≠ b.fields.length then b.fields.length < a.fields.length
  else if a.target ≠ b.target then b.target.getD "" < a.target.getD ""
  else b.fields < a.fields

/-- Whether two directives concern the same events. -/
def sameScope (a b : Directive) : Bool := a.target == b.target && a.fields == b.fields

end Directive

/-- A filter: directives, the most specific first. -/
abbrev Filter := List Directive

namespace Filter

/-- Puts a directive in its place, in place of one for the same events. -/
def insert (d : Directive) : Filter → Filter
  | [] => [d]
  | e :: es =>
    if d.sameScope e then d :: es
    else if d.before e then d :: e :: es
    else e :: insert d es

def enables (f : Filter) (e : Event) : Bool :=
  match f.find? (·.concerns e) with
  | some d => d.allows e
  | none => false

end Filter

/-! ### Reading filters -/

/-- The level that a word or a number names: none for silence. -/
def level? (s : List Char) : Option (Option Level) :=
  let numbered : List (Option Level) :=
    [none, some .error, some .warn, some .info, some .debug, some .trace]
  match Literal.word? s with
  | some n => numbered[n]?
  | none =>
    let lower := String.ofList (s.map Char.toLower)
    if lower = "off" then some none
    else (numbered.find? fun l => l.any (·.name.toLower == lower))

/-- A directive as it is written, in which spans and the values of fields may be named as well. -/
structure Clause where
  target : Option String
  inSpan : Bool
  /-- The names of fields, and whether a value is asked for. -/
  fields : List (String × Bool)
  level : Option Level

/-- Where the reading of a clause stands, with the place at which a part of it began. -/
inductive ClauseState where
  | start
  | levelOrTarget (place : Nat)
  | span (place : Nat)
  | field (place : Nat)
  | fields
  | target
  | level (place : Nat)

namespace Clause

/-- The clause of which nothing has been read. -/
def blank : Clause := ⟨none, false, [], some .trace⟩

/-- The name of a field, and whether a value is asked for. What stands behind a second sign of
equality does not count. -/
def fieldOf (s : List Char) : Option (String × Bool) :=
  if s.isEmpty then none
  else
    match s.span (· != '=') with
    | (name, []) => some (.ofList name, false)
    | (name, _ :: value) =>
      if Pattern.isValue (value.takeWhile (· != '=')) then some (.ofList name, true) else none

/-- Takes the next character of a clause, which has the given place. -/
def next (source : List Char) (place : Nat) (c : Clause) (state : ClauseState) (x : Char) :
    Option (Clause × ClauseState) :=
  let since (start : Nat) : List Char := (source.drop start).take (place - start)
  match state, x with
  | .start, '[' => some (c, .span (place + 1))
  | .start, x =>
    if x = '-' ∨ x = ':' ∨ x = '_' ∨ isAlphanumeric x then
      some (c, .levelOrTarget place)
    else none
  | .levelOrTarget start, '=' =>
    some ({ c with target := some (.ofList (since start)) }, .level (place + 1))
  | .levelOrTarget start, '[' =>
    some ({ c with target := some (.ofList (since start)) }, .span (place + 1))
  | .levelOrTarget start, _ => some (c, .levelOrTarget start)
  | .target, '=' => some (c, .level (place + 1))
  | .target, _ => none
  | .span _, ']' => some ({ c with inSpan := true }, .target)
  | .span start, '{' => some ({ c with inSpan := !(since start).isEmpty }, .field (place + 1))
  | .span start, _ => some (c, .span start)
  | .field start, '}' => do
    return ({ c with fields := c.fields ++ [← fieldOf (since start)] }, .fields)
  | .field start, _ => some (c, .field start)
  | .fields, ']' => some (c, .target)
  | .fields, _ => none
  | .level start, _ => some (c, .level start)

/-- The clause when its last character has been taken. -/
def finish (source : List Char) (c : Clause) : ClauseState → Option Clause
  | .levelOrTarget start =>
    let s := source.drop start
    if s.isEmpty then some { c with level := some .trace, target := none }
    else
      match level? s with
      | some l => some { c with level := l, target := none }
      | none => some { c with level := some .trace, target := some (.ofList s) }
  | .level start =>
    let s := source.drop start
    if s.isEmpty then some { c with level := some .trace }
    else (level? s).map fun l => { c with level := l }
  | .target => some c
  | _ => none

/-- Reads a clause. The places are counted without the blanks before the clause. -/
def read (source : List Char) : Option Clause := do
  let (c, state) ← (Literal.trim source).zipIdx.foldlM
    (fun (c, state) (x, place) => next source place c state x) (blank, .start)
  finish source c state

/-- The directive of a clause that concerns events outside of spans, whatever the values of their
fields. -/
def directive? (c : Clause) : Option Directive :=
  if c.inSpan || c.fields.any (·.2) then none
  else some ⟨c.target, c.fields.map (·.1), c.level⟩

end Clause

namespace Filter

/-- Lets everything pass up to a level. -/
def upTo (l : Level) : Filter := [⟨none, [], some l⟩]

/-- The filter that a text describes. A text without clauses lets only errors pass. -/
def read (source : String) : Option Filter := do
  let clauses ← ((source.toList.splitOn ',').filter (!·.isEmpty)).mapM Clause.read
  if clauses.isEmpty then return upTo .error
  else return (clauses.filterMap Clause.directive?).foldl (fun f d => insert d f) []

/-- The filter of an environment: informative events, unless it describes another. -/
def ofEnvironment (e : Environment) : Filter :=
  ((e.get "RUST_LOG").bind read).getD (upTo .info)

end Filter

end Log

end RoomDraw
