import RoomDraw.Log.Line
import RoomDraw.Program

/-!
# The command

Runs the program on the system it is started on.
-/

namespace RoomDraw

namespace Console

/-- The text for an error code of the system. -/
def codeText (code : UInt32) (details : String) : String :=
  let ending := s!" (os error {code})"
  let known : List SystemError :=
    [.notFound, .alreadyExists, .notDirectory, .isDirectory, .invalid, .nameTooLong, .tooManyLinks]
  match known.find? (·.message.endsWith ending) with
  | some e => e.message
  | none => details ++ ending

/-- The text of an error of the system. -/
def describe : IO.Error → String
  | .noFileOrDirectory _ code details | .permissionDenied _ code details
  | .inappropriateType _ code details | .alreadyExists _ code details
  | .resourceExhausted _ code details | .invalidArgument _ code details
  | .hardwareFault code details | .otherError code details
  | .unsatisfiedConstraints code details | .resourceBusy code details => codeText code details
  | e => toString e

/-- What an action gives, or the text of its error. -/
def attempt {α : Type} (action : IO α) : IO (Except String α) := do
  try return .ok (← action)
  catch e => return .error (describe e)

/-- What the paths of the entries of a directory begin with. -/
def below (directory : String) : String :=
  if directory.endsWith "/" then directory else directory ++ "/"

def entry (directory : String) (name : Name) : String := below directory ++ Utf8.lossy name

/-- Opens the directory of what a path names: its path without links. -/
def openParent (path : Path) : IO (Except String String) := attempt do
  let steps := path.parent.map fun
    | .root => ""
    | .here => "."
    | .up => ".."
    | .name n => Utf8.lossy n
  let directory ← IO.FS.realPath (if steps.isEmpty then "." else "/".intercalate steps ++ "/.")
  return directory.toString

def openFile (directory : String) (name : Name) : IO (Except String Feed) := do
  match ← attempt (IO.FS.realPath (entry directory name)) with
  | .error message => return .error message
  | .ok file =>
    if !(below directory).toList.isPrefixOf file.toString.toList then
      return .error SystemError.escapes.message
    else if ← file.isDir then return .ok (.broken SystemError.isDirectory.message)
    else return (← attempt (IO.FS.readBinFile file)).map fun bytes => .ofBytes bytes.data.toList

/-- Takes a step in a directory. -/
def perform (directory : String) (request : Request) : IO Response := attempt do
  match request with
  | .create name =>
    let _ ← IO.FS.Handle.mk (entry directory name) .writeNew
    return 0
  | .write name bytes =>
    let handle ← IO.FS.Handle.mk (entry directory name) .append
    handle.write bytes.toByteArray
    handle.flush
    return bytes.length
  | .rename source target =>
    IO.FS.rename (entry directory source) (entry directory target)
    return 0
  | .discard name =>
    IO.FS.removeFile (entry directory name)
    return 0
  | .sync _ | .syncDirectory => return 0

def settingsFile (path : Path) : IO SettingsFile := do
  match ← attempt (IO.FS.realPath path.display) with
  | .error _ => return .absent
  | .ok file =>
    if ← file.isDir then return .absent
    else
      match ← attempt (IO.FS.readBinFile file) with
      | .ok bytes => return .contents (.ofString file.toString) bytes.data.toList
      | .error _ => return .unreadable

def processNumber : IO Nat := do
  let stat ← IO.FS.readFile "/proc/self/stat"
  return ((stat.splitOn " ").head?.bind String.toNat?).getD 0

/-- Writes a text, whether or not that succeeds. -/
def writeTo (stream : IO.FS.Stream) (text : String) : IO Unit := do
  let _ ← attempt do
    stream.putStr text
    stream.flush

/-- The system as a host, with a filter for the events that are logged. -/
def host (filter : Log.Filter) (counter : IO.Ref Nat) : Host IO String where
  openParent := openParent
  openFile := openFile
  perform := perform
  settingsFile := settingsFile
  workingDirectory := do return .ofString (← IO.FS.realPath ".").toString
  freshSeed := do
    let bytes ← IO.getRandomBytes 8
    return bytes.data.foldl (fun n b => n * 256 + b.toUInt64) 0
  freshStamp := do
    let n ← counter.modifyGet fun n => (n, n + 1)
    return ⟨← processNumber, ← IO.monoNanosNow, n⟩
  report event := do
    if filter.enables event then writeTo (← IO.getStderr) (Log.line event ++ "\n")
  print text := do writeTo (← IO.getStdout) text
  printError text := do writeTo (← IO.getStderr) text

def environment : IO Environment := do
  let bytes ← IO.FS.readBinFile "/proc/self/environ"
  let entries := bytes.data.toList.splitOn 0
  return entries.filterMap fun entry =>
    match entry.span (· != 0x3D) with
    | (name, _ :: value) => some (Utf8.lossy name, Utf8.lossy value)
    | _ => none

end Console

end RoomDraw

def main (arguments : List String) : IO UInt32 := do
  let environment ← RoomDraw.Console.environment
  let counter ← IO.mkRef 0
  let host := RoomDraw.Console.host (.ofEnvironment environment) counter
  RoomDraw.Program.execute host arguments environment
