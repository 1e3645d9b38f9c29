import RoomDraw.Files.Replacement

/-!
# Steps on a disk

What the steps of a replacement do to a disk. A step may fail for a reason of its own, which the
disk does not show, and a write may take only a part of the bytes.
-/

namespace RoomDraw

/-- What becomes of a step apart from what the disk has to say. -/
inductive Fate where
  /-- The step does all it can. -/
  | granted
  /-- The step takes no more than so many bytes, and at least one. -/
  | cut (size : Nat)
  /-- The step fails after so many bytes. -/
  | refused (after : Nat) (message : String)
deriving DecidableEq, Repr

namespace Disk

/-- Writes at the end of a file. -/
def append (d : Disk) (l : Location) (bytes : Bytes) : Disk :=
  match d.get l with
  | some (.file contents) => d.set l (.file (contents ++ bytes))
  | _ => d

def create (d : Disk) (directory : Location) (name : Name) : Except SystemError Disk :=
  let l := directory ++ [name]
  if name.contains 0 then .error .invalid
  else if maxName < name.length then .error .nameTooLong
  else if (d.get l).isSome then .error .alreadyExists
  else .ok (d.set l (.file []))

/-- Renames a file. A directory does not give way to it. -/
def rename (d : Disk) (directory : Location) (source target : Name) : Except SystemError Disk :=
  match d.get (directory ++ [source]) with
  | none => .error .notFound
  | some e =>
    if d.isDirectory (directory ++ [target]) then .error .isDirectory
    else .ok ((d.remove (directory ++ [source])).set (directory ++ [target]) e)

/-- The disk after a step in a directory, and the answer. -/
def perform (d : Disk) (directory : Location) (fate : Fate) (request : Request) :
    Disk × Response :=
  match request with
  | .write name bytes =>
    let l := directory ++ [name]
    match fate with
    | .granted => (d.append l bytes, .ok bytes.length)
    | .cut size =>
      let taken := bytes.take (max 1 size)
      (d.append l taken, .ok taken.length)
    | .refused after message => (d.append l (bytes.take after), .error message)
  | .discard name =>
    match fate with
    | .refused _ message => (d, .error message)
    | _ => (d.remove (directory ++ [name]), .ok 0)
  | request =>
    match fate with
    | .refused _ message => (d, .error message)
    | _ =>
      let changed := match request with
        | .create name => d.create directory name
        | .rename source target => d.rename directory source target
        | _ => .ok d
      match changed with
      | .ok d => (d, .ok 0)
      | .error e => (d, .error e.message)

end Disk

end RoomDraw
