/-
What the user chooses: where to connect, how results are rendered, what a failed statement does to
the run, and where the history is kept.
-/
namespace QueryShell

/-! ## Endpoints -/

/-- The address used when none is given. -/
def defaultAddress : String := "http://localhost:7474"

/-- Where and as whom to connect. The empty database name asks for the server's default. -/
structure Endpoint where
  address : String := defaultAddress
  username : String := ""
  password : String := ""
  database : String := ""
deriving DecidableEq, Repr

/-- Both parts of the credentials are there. -/
def Endpoint.hasCredentials (e : Endpoint) : Bool :=
  !e.username.isEmpty && !e.password.isEmpty

/-! ## Formats -/

/-- How results are rendered: as tables with a summary (`verbose`), as comma separated lines
(`plain`), or as one of the two, depending on whether a terminal shows them (`auto`). -/
inductive Format where
  | auto
  | verbose
  | plain
deriving DecidableEq, Repr

namespace Format

/-- Decides `auto`. -/
def resolve (terminal : Bool) : Format → Format
  | .auto => if terminal then .verbose else .plain
  | f => f

/-- The name of a format. -/
def name : Format → String
  | .auto => "auto"
  | .verbose => "verbose"
  | .plain => "plain"

/-- The format of exactly this name. -/
def ofExactName? (name : String) : Option Format :=
  [auto, verbose, plain].find? (·.name = name)

/-- The format of a name; upper and lower case are the same. Only ASCII letters have a lower case
that occurs in these names. -/
def ofName? (name : String) : Option Format :=
  ofExactName? (String.ofList (name.toList.map Char.toLower))

theorem ofName?_name (f : Format) : ofName? f.name = some f := by
  cases f <;> decide +kernel

/-- The complaint about a name that no format has. -/
def unknownMessage (name : String) : String :=
  s!"Unknown output format: {name}"

end Format

/-! ## Runs -/

/-- What a failed statement does to the run: nothing, end it at once, or make it end with a failure
code once all statements have run. -/
inductive ErrorPolicy where
  | carryOn
  | failFast
  | failAtEnd
deriving DecidableEq, Repr

/-- The longest identity that stands on the line of the prompt. -/
def defaultPromptWidth : Nat := 50

/-- The settings of a run. -/
structure Settings where
  interactive : Bool
  policy : ErrorPolicy
  format : Format
  promptWidth : Nat := defaultPromptWidth
  historyFile? : Option String
deriving DecidableEq, Repr

/-- Puts a relative path below a directory. -/
def joinPath (directory path : String) : String :=
  if directory.isEmpty || directory.endsWith "/" then directory ++ path
  else directory ++ "/" ++ path

/-- The history file in the home directory, when one is known. -/
def defaultHistoryFile? (home? profile? : Option String) : Option String :=
  (home?.or profile?).map fun home =>
    joinPath (joinPath home ".graphshell") ".graphshell_history"

/-- Someone sits at a terminal. -/
def Settings.attended (historyFile? : Option String) : Settings where
  interactive := true
  policy := .carryOn
  format := .verbose
  historyFile? := historyFile?

/-- A script is run. -/
def Settings.unattended (policy : ErrorPolicy) : Settings where
  interactive := false
  policy := policy
  format := .plain
  historyFile? := none

end QueryShell
