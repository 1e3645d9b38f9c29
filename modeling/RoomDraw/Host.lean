import RoomDraw.Event
import RoomDraw.Files.Replacement
import RoomDraw.Csv.Feed

/-!
# Hosts

What a run needs of the system around it: directories and files, fresh seeds and stamps, and
somebody to report to. A run is written once, for every host. On a host that is a value (`World`)
all it does can be reasoned about.
-/

namespace RoomDraw

/-- What is found where a file of settings may be. -/
inductive SettingsFile where
  | absent
  | unreadable
  /-- A file: the path to it from the root, without links, and its bytes. -/
  | contents (path : Path) (bytes : Bytes)
deriving Repr

/-- The operations of a system, with handles of type `D` for the directories it has opened. Errors
are texts. -/
structure Host (m : Type → Type) (D : Type) where
  /-- Opens the directory of what a path names. -/
  openParent : Path → m (Except String D)
  /-- Opens the file with a name in a directory, to read it. -/
  openFile : D → Name → m (Except String Feed)
  /-- Takes a step in a directory. -/
  perform : D → Request → m Response
  settingsFile : Path → m SettingsFile
  /-- The path of the working directory from the root. -/
  workingDirectory : m Path
  /-- A seed that is not to be foreseen. -/
  freshSeed : m UInt64
  /-- A stamp that differs from all others of the process. -/
  freshStamp : m Stamp
  /-- Takes note of an event. -/
  report : Event → m Unit
  /-- Writes to the standard output. Whether that succeeds is not known. -/
  print : String → m Unit
  /-- Writes to the standard error output. -/
  printError : String → m Unit

variable {m : Type → Type} [Monad m] {D : Type}

/-- Reports events in their order. -/
def Host.reportAll (host : Host m D) (events : List Event) : m Unit := events.forM host.report

end RoomDraw
