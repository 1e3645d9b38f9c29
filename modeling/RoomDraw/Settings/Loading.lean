import RoomDraw.Host
import RoomDraw.Settings.Arguments
import RoomDraw.Settings.Environment
import RoomDraw.Settings.File

/-!
# Loading settings

Puts the layers together. Of the files in which settings may be, the first that can be used counts;
what is wrong with those before it matters only if there is no such file, or if the command line
names the file.
-/

namespace RoomDraw

/-- Why settings cannot be loaded. -/
inductive SettingsError where
  | arguments (error : ArgumentError)
  | file (path : Path) (fault : FileFault)
  /-- A value is of the wrong kind. -/
  | merge
deriving BEq, Repr

def SettingsError.message : SettingsError → String
  | .arguments (.unknown argument) => s!"unexpected argument '{argument}'"
  | .arguments (.missingValue _) => "an option has no value"
  | .arguments (.repeated _) => "an option is given twice"
  | .arguments (.malformedValue _ value) => s!"invalid value '{value}'"
  | .arguments (.unwantedValue _) => "a flag has a value"
  | .arguments .help => helpText
  | .file path .unusable => s!"cannot load settings from '{path.display}'"
  | .file path .unreadable => s!"cannot read the values of '{path.display}'"
  | .file path .cyclic => s!"the file '{path.display}' extends itself"
  | .merge => "a setting has a value of the wrong kind"
where
  /-- What the command line can say. -/
  helpText : String :=
    "options: --roster-path FILE, --manifest-path FILE, --seed NUMBER, " ++
      "--centurion-threshold NUMBER, --pretty, --config-path FILE"

namespace Settings

/-- The paths under which settings may be, best first: the one that is named, and those that the
environment and the working directory give. -/
def candidates (named : Option Path) (e : Environment) (here : Path) : List Path :=
  let value (name : String) : List String := ((e.get name).filter (· != "")).toList
  let folders := value "XDG_CONFIG_HOME" ++
    ((value "XDG_CONFIG_DIRS").flatMap (·.splitOn ":")).filter (· != "")
  let own (base : Path) : Path := base.join (.ofString ".room_seed.toml")
  let below (base : Path) : List Path := [base.join (.ofString "room_seed/config.toml"), own base]
  let all := named.toList ++ (value "ROOM_SEED_CONFIG_PATH").map Path.ofString ++
    (folders.map Path.ofString).flatMap below ++
    ((value "HOME").map Path.ofString).flatMap
      (fun home => below (home.join (.ofString ".config")) ++ [own home]) ++
    [own here]
  (all.map Path.bytes).eraseDups.map Path.mk

variable {m : Type → Type} [Monad m] {D : Type}

/-- The layer of the first file that can be used, or what is wrong with the files there are. -/
def discover (host : Host m D) : List Path → List SettingsError → m (List SettingsError × Layer)
  | [], errors => return (errors, .empty)
  | path :: paths, errors => do
    match ← SettingsFile.load? host path with
    | some (.ok l) => return ([], l)
    | some (.error f) => discover host paths (errors ++ [.file path f])
    | none => discover host paths errors

/-- The layer of the file that the command line names, or of the first file that can be used. A file
that is named has to be there. -/
def fileLayer (host : Host m D) (named : Option Path) (e : Environment) :
    m (List SettingsError × Layer) := do
  let paths := candidates named e (← host.workingDirectory)
  match named with
  | none => discover host paths []
  | some path =>
    match ← SettingsFile.load? host path with
    | some (.ok l) => return ([], l)
    | found =>
      let fault := match found with
        | some (.error f) => f
        | _ => .unusable
      let (errors, l) ← discover host paths.tail []
      return (.file path fault :: errors, l)

/-- Loads the settings of a command line, an environment and the files there are. -/
def load (host : Host m D) (arguments : List String) (e : Environment) :
    m (Except (List SettingsError) Settings) := do
  let line := CommandLine.read arguments
  let named := match line with
    | .ok c => c.configPath?.map Path.ofString
    | .error _ => none
  let (fileErrors, file) ← fileLayer host named e
  let (lineErrors, upper) := match line with
    | .ok c => ([], c.layer)
    | .error e => ([SettingsError.arguments e], Layer.empty)
  let merged := (upper.above ((Environment.layer e).above (file.above .defaults))).settings?
  match lineErrors ++ fileErrors, merged with
  | [], some s => return .ok s
  | errors, some _ => return .error errors
  | errors, none => return .error (errors ++ [SettingsError.merge])

end Settings

end RoomDraw
