import RoomDraw.Host
import RoomDraw.Settings.Layer
import RoomDraw.Toml.Reader

/-!
# Files of settings

A file of settings is a TOML document. It has to be well-formed in the later edition, but its values
are read in the earlier one. A file may extend another: what it does not say itself is then taken
from there.
-/

namespace RoomDraw

/-- Why a file of settings cannot be used. -/
inductive FileFault where
  /-- It is not there, or not in the form that is read. -/
  | unusable
  /-- It is well-formed in the later edition only. -/
  | unreadable
  /-- It extends itself, perhaps through other files. -/
  | cyclic
deriving DecidableEq, Repr

namespace SettingsFile

/-- The extensions of files that are in other forms. -/
def otherForms : List String := ["json", "json5", "yaml", "yml"]

def isOtherForm (path : Path) : Bool :=
  path.extension?.any fun ending => otherForms.contains (Utf8.lossy ending).toLower

def table (path : Path) (bytes : Bytes) : Except FileFault Toml.Table :=
  if isOtherForm path then .error .unusable
  else
    match Utf8.decode? bytes with
    | none => .error .unusable
    | some text =>
      match Toml.read .v1_1 text, Toml.read .v1_0 text with
      | none, _ => .error .unusable
      | some _, none => .error .unreadable
      | some _, some t => .ok t

/-- The path of the file that a file extends, if it does. -/
def extended? (path : Path) (t : Toml.Table) : Except FileFault (Option Path) :=
  match t.get "extends" with
  | none => .ok none
  | some (.value (.text base)) =>
    if base = "" then .error .unusable else .ok (some (path.beside (.ofString base)))
  | some _ => .error .unusable

variable {m : Type → Type} [Monad m] {D : Type}

/-- How many files may extend one another. -/
def chainLimit : Nat := UInt16.size

/-- The layer of a file, above those of the files it extends, of which there may be so many. The
paths are those of the files on the way to it. -/
def layer (host : Host m D) : Nat → List Path → Path → Bytes → m (Except FileFault Layer)
  | 0, _, _, _ => return .error .cyclic
  | bound + 1, seen, path, bytes => do
    if seen.contains path then return .error .cyclic
    match table path bytes with
    | .error f => return .error f
    | .ok t =>
      match extended? path t with
      | .error f => return .error f
      | .ok none => return .ok (.ofTable t)
      | .ok (some base) =>
        match ← host.settingsFile base with
        | .contents base bytes =>
          return (← layer host bound (path :: seen) base bytes).map (Layer.above (.ofTable t))
        | _ => return .error .unusable

/-- The layer of the file that a path leads to, if there is one. -/
def load? (host : Host m D) (path : Path) : m (Option (Except FileFault Layer)) := do
  match ← host.settingsFile path with
  | .absent => return none
  | .unreadable => return some (.error .unusable)
  | .contents path bytes => return some (← layer host chainLimit [] path bytes)

end SettingsFile

end RoomDraw
