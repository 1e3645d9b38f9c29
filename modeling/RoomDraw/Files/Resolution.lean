import RoomDraw.Csv.Feed
import RoomDraw.Files.Disk

/-!
# Finding files

A path is followed from a location, component by component, through the links on the way. A file is
opened in two steps: its directory first, and then its name from within the directory, from where
no link may lead out.
-/

namespace RoomDraw

namespace Disk

/-- How many links may be followed on the way. -/
def maxLinks : Nat := 40

/-- The length, in bytes, from which on a path is too long. -/
def pathLimit : Nat := 4096

/-- The components that a link stands for. A slash at the end, with or without a dot behind it, asks
for a directory. -/
def linkSteps (target : Path) : List Component :=
  target.components ++ if target.endsInDirectory then [.here] else []

/-- Follows components from a location, up to the first link; what a link stands for, and the
components behind it, are handed on. From within a directory that was opened, its location is the
bound: nothing may lead above it or back to the root. -/
def walkToLink (d : Disk) (bound : Option Location)
    (follow : Location → List Component → Except SystemError Location) (at_ : Location) :
    List Component → Except SystemError Location
  | [] => .ok at_
  | step :: steps =>
    if !d.isDirectory at_ then .error .notDirectory
    else
      match step with
      | .here => walkToLink d bound follow at_ steps
      | .root => if bound.isSome then .error .escapes else walkToLink d bound follow [] steps
      | .up =>
        if bound = some at_ then .error .escapes
        else walkToLink d bound follow at_.dropLast steps
      | .name n =>
        if maxName < n.length then .error .nameTooLong
        else
          match d.get (at_ ++ [n]) with
          | none => .error .notFound
          | some (.link target) => follow at_ (linkSteps target ++ steps)
          | some _ => walkToLink d bound follow (at_ ++ [n]) steps

/-- Follows components from a location, with so many links left. -/
def walk (d : Disk) (bound : Option Location) :
    Nat → Location → List Component → Except SystemError Location
  | 0 => d.walkToLink bound fun _ _ => .error .tooManyLinks
  | links + 1 => d.walkToLink bound (walk d bound links)

/-- The location of the directory that holds what a path names. -/
def openParent (d : Disk) (here : Location) (p : Path) : Except SystemError Location := do
  if pathLimit ≤ p.parentLength then throw .nameTooLong
  if p.parent.any Component.holdsNul then throw .nulInPath
  let l ← d.walk none maxLinks here p.parent
  if d.isDirectory l then return l else throw .notDirectory

/-- The bytes of the file with a name in a directory, as a feed. A directory can be opened like a
file, but not read. -/
def openFile (d : Disk) (directory : Location) (n : Name) : Except SystemError Feed := do
  if n.contains 0 then throw .invalid
  let l ← d.walk (some directory) maxLinks directory [.name n]
  match d.get l with
  | some (.file contents) => return .ofBytes contents
  | _ => return .broken SystemError.isDirectory.message

/-- The file that a path leads to: its location and its bytes. -/
def findFile (d : Disk) (here : Location) (p : Path) : Except SystemError (Location × Bytes) := do
  if pathLimit ≤ p.bytes.length then throw .nameTooLong
  if p.bytes.isEmpty then throw .notFound
  let l ← d.walk none maxLinks here (linkSteps p)
  match d.get l with
  | some (.file contents) => return (l, contents)
  | _ => throw .isDirectory

end Disk

end RoomDraw
