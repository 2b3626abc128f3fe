import QueryShell.CommandLine.Options
import QueryShell.Loop.Run

/-
A run from its start to its exit code: connect, asking for credentials if the server rejects the ones
given, set the parameters, then run a single statement or the loop.
-/
namespace QueryShell.CommandLine

/-- What a run finds around it. -/
structure Surroundings where
  inputIsTerminal : Bool := false
  outputIsTerminal : Bool := false
  home? : Option String := none
  profile? : Option String := none
deriving DecidableEq, Repr

/-- The version of the driver. -/
def driverVersion : String := "graphshell driver 0.0.1"

/-- The settings of a run. -/
def settingsOf (o : Options) (s : Surroundings) : Settings :=
  o.settings (o.isInteractive s.inputIsTerminal) s.home? s.profile?

/-- The printer of a run. -/
def printerOf (o : Options) (s : Surroundings) : Printer :=
  Printer.make (settingsOf o s).format s.outputIsTerminal s.outputIsTerminal

/-- The loop and shell that a run starts with. -/
def initial (o : Options) (s : Surroundings) : Loop Shell :=
  let settings := settingsOf o s
  let printer := printerOf o s
  { settings := .of settings o.endpoint.username
    printer
    executor := { connection := { interactive := settings.interactive }, printer } }

/-- A run that can fail. -/
abbrev Stage (α : Type) := Attempt (Loop Shell) Failure α

/-! ## Connecting -/

/-- Writes a text without a line end. -/
def ask (prompt : String) : Stage Unit :=
  (Attempt.ofProgram (.console (.print .out prompt))).mapError .io

/-- The server rejected the credentials. -/
def rejectsCredentials : Failure → Bool
  | .transport (.authentication _) _ => true
  | _ => false

/-- Asks for the credentials that are missing. -/
def askCredentials (endpoint : Endpoint) : Stage Endpoint := do
  let endpoint ←
    if endpoint.username.isEmpty then do
      ask "Username: "
      let line ← Attempt.ofProgram (.console .askLine)
      pure { endpoint with username := Text.trim line }
    else pure endpoint
  if endpoint.password.isEmpty then
    ask "Password: "
    let password ← Attempt.ofProgram (.console .askSecret)
    return { endpoint with password }
  else return endpoint

/-- Connects, and once more with credentials asked for if the server rejects the ones given while
some are missing and someone is there to be asked. -/
def connect (endpoint : Endpoint) (inputIsTerminal : Bool) : Stage Endpoint := do
  match ← Attempt.lift (Loop.tryExecutor (Shell.connect endpoint)).run with
  | .ok () => return endpoint
  | .error e =>
    if inputIsTerminal && !endpoint.hasCredentials && rejectsCredentials e then
      let endpoint ← askCredentials endpoint
      Loop.tryExecutor (Shell.connect endpoint)
      return endpoint
    else throw e

/-! ## Running -/

/-- Runs a single statement. -/
def runSingle (statement : String) : Program (Loop Shell) Int := do
  match ← (Loop.tryExecutor (Shell.execute statement)).run with
  | .ok () => return Loop.exitSuccess
  | .error (.exit code) => return code
  | .error e =>
    (← get).printer.printError e
    return Loop.exitFailure

/-- A text in quotes, as it stands in a log. -/
def quoted (text : String) : String :=
  let escape (c : Char) : List Char :=
    match c with
    | '"' => ['\\', '"']
    | '\\' => ['\\', '\\']
    | '\n' => ['\\', 'n']
    | '\r' => ['\\', 'r']
    | '\t' => ['\\', 't']
    | '\x00' => ['\\', '0']
    | c =>
      if c.toNat < 0x20 || c.toNat = 0x7f then
        ['\\', 'u', '\x7b'] ++ Nat.toDigits 16 c.toNat ++ ['\x7d']
      else [c]
  String.ofList ('"' :: text.toList.flatMap escape ++ ['"'])

/-- The history of a run: only someone at a terminal has one that is kept. -/
def openHistory (settings : Settings) : Program (Loop Shell) History := do
  match settings.historyFile?, settings.interactive with
  | some path, true =>
    match ← (History.load path).run with
    | .ok history => return history
    | .error e =>
      Program.warn .startup s!"Could not load history from {quoted path}: {e.message}"
      return {}
  | _, _ => return {}

/-- Where the lines of a run come from. -/
def sourceOf (o : Options) (settings : Settings) (history : History) : Source :=
  match o.file? with
  | some path => .file path
  | none => if settings.interactive then .editor history.entries else .standard

/-- Runs the loop; `reads` bounds the number of reads. -/
def runLoop (o : Options) (settings : Settings) (endpoint : Endpoint) (reads : Nat) :
    Stage (Option Int) := do
  let history ← Attempt.lift (openHistory settings)
  Attempt.lift (modify fun l =>
    { l with
      history
      settings := .of settings endpoint.username
      executor := { l.executor with listed := .shared history.entries } })
  Attempt.ofProgram (.console (.openSource (sourceOf o settings history)))
  if settings.interactive then
    Attempt.lift (Loop.onExecutor (Shell.printWelcome endpoint))
  Attempt.lift (Loop.runUntilEnd .shell reads)

/-- Runs from the connection to the exit code. -/
def start (o : Options) (s : Surroundings) (reads : Nat) : Stage (Option Int) := do
  let settings := settingsOf o s
  let endpoint ← connect o.endpoint s.inputIsTerminal
  o.params.forM fun assignment => Loop.tryExecutor (Shell.execute s!":param {assignment}")
  let code? ← match o.query? with
    | some statement => some <$> Attempt.lift (runSingle statement)
    | none => runLoop o settings endpoint reads
  Attempt.lift (Loop.onExecutor Shell.disconnect)
  return code?

/-- A whole run. The result is the exit code. -/
def run (o : Options) (s : Surroundings) (reads : Nat) : Program (Loop Shell) (Option Int) := do
  if o.driverVersion then
    Printer.writeLine .out driverVersion
    return some Loop.exitSuccess
  else
    match ← (start o s reads).run with
    | .ok code? => return code?
    | .error (.exit code) => return some code
    | .error e =>
      (printerOf o s).printError e
      return some Loop.exitFailure

end QueryShell.CommandLine
