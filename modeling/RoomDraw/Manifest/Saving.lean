import RoomDraw.Host
import RoomDraw.Manifest.Printer

/-!
# Saving a manifest

Writes a manifest to a file, which keeps its old contents until all of the new ones are there.
-/

namespace RoomDraw

variable {m : Type → Type} [Monad m] {D : Type}

namespace Manifest

/-- Saves a manifest in the file that a path names. What the error names is the path if the
directory cannot be opened, and after that the file in the directory on which a step failed. -/
def save (host : Host m D) (manifest : Manifest) (path : Path) (layout : Layout) :
    m (Except ManifestError Unit) := do
  match path.text?, path.fileName? with
  | none, _ => return .error (.notText path)
  | some _, none => return .error (.unwritable path "manifest path must be a file")
  | some _, some name =>
    match ← host.openParent path with
    | .error message => return .error (.unwritable path message)
    | .ok directory =>
      let contents := Utf8.encode (manifest.toJson layout)
      let replacement := Replacement.start name (← host.freshStamp) contents
      match ← replacement.complete (host.perform directory) with
      | .error (culprit, message) => return .error (.unwritable ⟨culprit⟩ message)
      | .ok () =>
        host.report (.wroteManifest path manifest.creators.length)
        return .ok ()

end Manifest

end RoomDraw
