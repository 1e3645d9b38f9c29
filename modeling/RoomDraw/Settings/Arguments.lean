import RoomDraw.Settings.Literal

/-!
# The command line

Options with a value, written as one argument or two, and flags; those with short names may be
joined. An option that waits for its value is dealt with when the next argument has been looked at,
so that an argument that nothing is known of is refused before a value that is missing or wrong.
-/

namespace RoomDraw

/-- What the command line can say. -/
inductive Parameter where
  | setting (s : Setting)
  /-- The file of settings to begin with. -/
  | configPath
  | help
deriving DecidableEq, Repr

namespace Parameter

/-- The names of the parameters, long and short. -/
def names : List (Parameter × String × Option Char) :=
  [(.setting .rosterPath, "roster-path", some 'r'),
   (.setting .manifestPath, "manifest-path", some 'm'),
   (.setting .seed, "seed", some 's'),
   (.setting .centurionThreshold, "centurion-threshold", some 'c'),
   (.setting .pretty, "pretty", some 'p'),
   (.configPath, "config-path", none),
   (.help, "help", some 'h')]

def ofLong? (name : String) : Option Parameter := (names.find? (·.2.1 == name)).map (·.1)

def ofShort? (c : Char) : Option Parameter := (names.find? (·.2.2 == some c)).map (·.1)

def takesValue (p : Parameter) : Bool := p != .setting .pretty && p != .help

def value? (p : Parameter) (text : String) : Option RawValue :=
  match p with
  | .setting .seed | .setting .centurionThreshold =>
    (Literal.word? text.toList).map fun n => .integer n
  | .setting .pretty | .help => some (.boolean true)
  | _ => some (.text text)

/-- Whether the parameter names a file. -/
def isPath (p : Parameter) : Bool :=
  p == .setting .rosterPath || p == .setting .manifestPath || p == .configPath

end Parameter

/-- Why a command line is refused. -/
inductive ArgumentError where
  /-- Nothing is known of the argument. -/
  | unknown (argument : String)
  /-- The option has no value, or an empty one where it names a file. -/
  | missingValue (p : Parameter)
  /-- The parameter was given before. -/
  | repeated (p : Parameter)
  /-- The value is not of the right form. -/
  | malformedValue (p : Parameter) (value : String)
  /-- The flag has a value. -/
  | unwantedValue (p : Parameter)
  /-- Help is asked for. -/
  | help
deriving DecidableEq, Repr

/-- A command line as far as it has been read. -/
structure CommandLine where
  given : List (Parameter × RawValue)
  /-- The option that comes last, with its value if it has one yet. -/
  pending : Option (Parameter × Option String)
  /-- Whether no options are to follow. -/
  closed : Bool

namespace CommandLine

def empty : CommandLine := ⟨[], none, false⟩

def get (c : CommandLine) (p : Parameter) : Option RawValue := c.given.lookup p

def take (c : CommandLine) (p : Parameter) (text : String) : Except ArgumentError CommandLine :=
  if (c.get p).isSome then .error (.repeated p)
  else if p.isPath ∧ text = "" then .error (.missingValue p)
  else
    match p.value? text with
    | none => .error (.malformedValue p text)
    | some v => .ok { c with given := (p, v) :: c.given }

/-- Takes the option that is pending. -/
def settle (c : CommandLine) : Except ArgumentError CommandLine :=
  match c.pending with
  | none => .ok c
  | some (p, none) => .error (.missingValue p)
  | some (p, some text) => { c with pending := none }.take p text

/-- Takes an option whose value stands in the same argument, or a flag. -/
def takeWhole (c : CommandLine) (p : Parameter) (text : String) :
    Except ArgumentError CommandLine := do
  let c ← c.settle
  if p = .help then throw .help
  c.take p text

/-- Lets an option wait for its value. -/
def await (c : CommandLine) (p : Parameter) : Except ArgumentError CommandLine := do
  let c ← c.settle
  return { c with pending := some (p, none) }

/-- Reads an argument that begins with two dashes, from behind them. -/
def long (c : CommandLine) (argument : String) (body : List Char) :
    Except ArgumentError CommandLine :=
  let (name, value) := body.span (· != '=')
  match Parameter.ofLong? (.ofList name), value with
  | none, _ => .error (.unknown argument)
  | some p, [] => if p.takesValue then c.await p else c.takeWhole p ""
  | some p, _ :: value =>
    if p.takesValue then c.takeWhole p (.ofList value) else .error (.unwantedValue p)

/-- Reads the letters of an argument that begins with one dash. -/
def short (c : CommandLine) (argument : String) : List Char → Except ArgumentError CommandLine
  | [] => .ok c
  | letter :: rest =>
    match Parameter.ofShort? letter with
    | none => .error (.unknown argument)
    | some p =>
      if p.takesValue then
        match rest with
        | [] => c.await p
        | '=' :: value | value => c.takeWhole p (.ofList value)
      else do
        let c ← c.takeWhole p ""
        short c argument rest

/-- Reads an argument that is neither option nor flag. -/
def positional (c : CommandLine) (argument : String) : Except ArgumentError CommandLine :=
  match c.closed, c.pending with
  | false, some (p, none) => .ok { c with pending := some (p, some argument) }
  | _, _ => .error (.unknown argument)

def next (c : CommandLine) (argument : String) : Except ArgumentError CommandLine :=
  if c.closed then c.positional argument
  else
    match argument.toList with
    | ['-', '-'] => .ok { c with closed := true }
    | '-' :: '-' :: body => c.long argument body
    | ['-'] => c.positional argument
    | '-' :: letters => c.short argument letters
    | _ => c.positional argument

/-- Reads all arguments. -/
def read (arguments : List String) : Except ArgumentError CommandLine := do
  let c ← arguments.foldlM next empty
  c.settle

/-- The layer of the command line. If anything is given, it also says that the flag that is absent
is not set; otherwise it says nothing. -/
def layer (c : CommandLine) : Layer := fun s =>
  if c.given.isEmpty then none
  else
    match s with
    | .pretty => some ((c.get (.setting .pretty)).getD (.boolean false))
    | s => c.get (.setting s)

/-- The file of settings that is named. -/
def configPath? (c : CommandLine) : Option String :=
  match c.get .configPath with
  | some (.text path) => some path
  | _ => none

end CommandLine

end RoomDraw
