import RoomDraw.Run
import RoomDraw.Settings.Loading

/-!
# The program

Loads the settings, runs, and prints the report, or what went wrong.
-/

namespace RoomDraw

variable {m : Type → Type} [Monad m] {D : Type}

namespace Program

/-- The code with which the program ends well. -/
def success : UInt32 := 0

/-- The code with which the program ends after an error. -/
def failure : UInt32 := 1

/-- The error of a run whose settings cannot be loaded. -/
def configError (errors : List SettingsError) : RunError :=
  .config ("; ".intercalate (errors.map SettingsError.message))

/-- Prints how a run ended, and returns the code of the program. -/
def conclude (host : Host m D) : RunEnd → m UInt32
  | .completed outcome => do
    host.print (outcome.statistics.report ++ "\n")
    return success
  | .failed error => do
    host.printError (error.message ++ "\n")
    return failure
  | .endless => return failure

/-- Runs the program with the given arguments and environment. -/
def execute (host : Host m D) (arguments : List String) (e : Environment) : m UInt32 := do
  match ← Settings.load host arguments e with
  | .error errors => conclude host (.failed (configError errors))
  | .ok settings => conclude host (← run host settings)

end Program

end RoomDraw
