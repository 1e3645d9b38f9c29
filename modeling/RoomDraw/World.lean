import RoomDraw.Files.Effect
import RoomDraw.Files.Resolution
import RoomDraw.Host

/-!
# Worlds

A host that is a value: a disk, the location of the working directory, and what was reported and
printed. Every step that the system takes may fail, as the fates of the world say; those of removals
are told apart, since a file is only removed to clean up.
-/

namespace RoomDraw

/-- An output that takes all texts, or none. -/
structure Sink where
  full : Bool
  text : String
deriving DecidableEq, Repr

namespace Sink

/-- An output that has taken nothing yet. -/
def fresh (full : Bool) : Sink := ⟨full, ""⟩

/-- The output after a text was written to it. -/
def write (s : Sink) (text : String) : Sink :=
  if s.full then s else { s with text := s.text ++ text }

end Sink

/-- The state of the system around a run. -/
structure World where
  disk : Disk
  /-- The working directory. -/
  here : Location
  /-- What becomes of each step from now on, except removals. -/
  fates : List Fate
  /-- What becomes of each removal from now on. -/
  removals : List Fate
  seeds : List UInt64
  /-- The stamp that comes next. -/
  stamp : Stamp
  events : Array Event
  output : Sink
  errors : Sink

namespace World

/-- A world in which nothing was reported or printed, and every step does all it can. -/
def ofDisk (disk : Disk) (here : Location) : World :=
  { disk, here, fates := [], removals := [], seeds := [], stamp := ⟨0, 0, 0⟩, events := #[]
    output := .fresh false, errors := .fresh false }

/-- The fate of the next step. When none is said, the step does all it can. -/
def nextFate : StateM World Fate := fun w =>
  (w.fates.headD .granted, { w with fates := w.fates.tail })

def nextRemoval : StateM World Fate := fun w =>
  (w.removals.headD .granted, { w with removals := w.removals.tail })

/-- What the disk answers, unless the step is to fail. -/
def ask {α : Type} (answer : World → Except SystemError α) : StateM World (Except String α) := do
  match ← nextFate with
  | .refused _ message => return .error message
  | _ => return (answer (← get)).mapError SystemError.message

/-- Opens a file and reads it. Reading is a step of its own, which may fail on the way. -/
def openFile (directory : Location) (name : Name) : StateM World (Except String Feed) := do
  match ← ask (·.disk.openFile directory name) with
  | .error message => return .error message
  | .ok feed =>
    match ← nextFate with
    | .refused after message => return .ok (.failAfter after message feed.bytes)
    | _ => return .ok feed

/-- Takes a step in a directory. -/
def perform (directory : Location) (request : Request) : StateM World Response := do
  let fate ← match request with
    | .discard _ => nextRemoval
    | _ => nextFate
  modifyGet fun w =>
    let (disk, response) := w.disk.perform directory fate request
    (response, { w with disk })

/-- The path of a location from the root. -/
def pathOf (l : Location) : Path :=
  if l.isEmpty then ⟨[Path.slash]⟩ else ⟨l.flatMap (Path.slash :: ·)⟩

def settingsFile (path : Path) : StateM World SettingsFile := do
  match ← nextFate with
  | .refused _ _ => return .unreadable
  | _ =>
    let w ← get
    match w.disk.findFile w.here path with
    | .ok (l, bytes) => return .contents (pathOf l) bytes
    | .error _ => return .absent

def host : Host (StateM World) Location where
  openParent path := ask fun w => w.disk.openParent w.here path
  openFile := openFile
  perform := perform
  settingsFile := settingsFile
  workingDirectory := do return pathOf (← get).here
  freshSeed w := (w.seeds.headD 0, { w with seeds := w.seeds.tail })
  freshStamp w := (w.stamp, { w with stamp := { w.stamp with counter := w.stamp.counter + 1 } })
  report event := modify fun w => { w with events := w.events.push event }
  print text := modify fun w => { w with output := w.output.write text }
  printError text := modify fun w => { w with errors := w.errors.write text }

end World

end RoomDraw
