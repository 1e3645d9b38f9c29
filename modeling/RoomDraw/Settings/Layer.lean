import RoomDraw.Settings.Basic
import RoomDraw.Toml.Basic

/-!
# Layers of settings

Settings come in layers: defaults, a file, the environment, the command line. A layer says something
about some settings and nothing about the others; each setting is taken from the highest layer that
says something about it. Only then is it looked at whether the value is of the right kind.
-/

namespace RoomDraw

inductive Setting where
  | rosterPath
  | manifestPath
  | seed
  | centurionThreshold
  | pretty
deriving DecidableEq, Repr

namespace Setting

/-- The name of a setting in files, and in lower case in the environment. -/
def key : Setting → String
  | rosterPath => "roster_path"
  | manifestPath => "manifest_path"
  | seed => "seed"
  | centurionThreshold => "centurion_threshold"
  | pretty => "pretty"

end Setting

/-- A value before it is known what it is for. -/
inductive RawValue where
  | text (s : String)
  | integer (n : Int)
  | boolean (b : Bool)
  /-- A number that is infinite or none at all. It leaves a setting absent. -/
  | notFinite
  /-- A value that no setting has, such as a fraction or a list. -/
  | other
deriving DecidableEq, Repr

namespace RawValue

def path? : RawValue → Option Path
  | text s => some (.ofString s)
  | _ => none

/-- The natural number below `2 ^ 64` that a value is, if it is one. -/
def word? : RawValue → Option Nat
  | integer n => if 0 ≤ n ∧ n < UInt64.size then some n.toNat else none
  | _ => none

def boolean? : RawValue → Option Bool
  | boolean b => some b
  | _ => none

end RawValue

/-- What a layer says about each setting. -/
abbrev Layer := Setting → Option RawValue

namespace Layer

/-- The layer that says nothing. -/
def empty : Layer := fun _ => none

/-- The lowest layer. -/
def defaults : Layer
  | .pretty => some (.boolean false)
  | _ => none

def above (upper lower : Layer) : Layer := fun s => (upper s).or (lower s)

def ofTable (t : Toml.Table) : Layer := fun s =>
  (t.get s.key).map fun
    | .value (.text s) => .text s
    | .value (.integer n) => .integer n
    | .value (.boolean b) => .boolean b
    | .value .notFinite => .notFinite
    | _ => .other

/-- A setting that may be absent, but not of the wrong kind. -/
def optional {α : Type} (l : Layer) (s : Setting) (kind : RawValue → Option α) :
    Option (Option α) :=
  match l s with
  | none | some .notFinite => some none
  | some v => (kind v).map some

/-- The settings of a layer, if all values are of the right kind and the layout is set. -/
def settings? (l : Layer) : Option Settings := do
  return {
    rosterPath := ← l.optional .rosterPath RawValue.path?
    manifestPath := ← l.optional .manifestPath RawValue.path?
    seed := (← l.optional .seed RawValue.word?).map UInt64.ofNat
    centurionThreshold := ← l.optional .centurionThreshold RawValue.word?
    pretty := ← (l .pretty).bind RawValue.boolean? }

end Layer

end RoomDraw
