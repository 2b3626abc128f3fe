import QueryShell.Command.Help
import QueryShell.Connection.Transaction
import QueryShell.Printer
import QueryShell.Shell.Message

/-
The shell over a connection: it sends queries with the parameters in force, runs commands, and
remembers the server's code of the last failure. `Shell.execute` takes one statement or command.
-/
namespace QueryShell

/-- The entries that the history command lists. -/
inductive Listed where
  /-- A history that nobody adds to. -/
  | fixed (entries : List String)
  /-- The history of the loop that the shell serves. -/
  | shared (entries : List String)
deriving DecidableEq, Repr

namespace Listed

/-- The entries. -/
def entries : Listed → List String
  | .fixed es | .shared es => es

/-- Takes over the entries of the loop's history. -/
def follow (latest : List String) : Listed → Listed
  | .fixed es => .fixed es
  | .shared _ => .shared latest

end Listed

/-- A shell. -/
structure Shell where
  connection : Connection
  printer : Printer
  parameters : Parameters := []
  /-- The server's code of the latest execution, if that failed with one. -/
  lastError? : Option String := none
  listed : Listed := .fixed []
deriving Repr

namespace Shell

variable {α : Type}

/-- Runs a program on the connection. -/
def onConnection (p : Program Connection α) : Program Shell α :=
  p.zoom Shell.connection fun connection s => { s with connection }

/-- Attempts something on the connection. -/
def tryConnection (p : Attempt Connection Failure α) : Attempt Shell Failure α :=
  p.zoom Shell.connection fun connection s => { s with connection }

/-- Prints with the shell's printer. -/
def print (p : Printer → Program Shell Unit) : Attempt Shell Failure Unit := do
  Attempt.lift (p (← get).printer)

/-! ## Connecting -/

/-- Connects. -/
def connect (endpoint : Endpoint) : Attempt Shell Failure Unit :=
  tryConnection (Connection.connect endpoint)

/-- Disconnects. -/
def disconnect : Program Shell Unit :=
  onConnection Connection.disconnect

/-- Says what the shell is connected to and how to go on. -/
def printWelcome (endpoint : Endpoint) : Program Shell Unit := do
  let version ← onConnection Connection.version
  let printer := (← get).printer
  printer.printIfVerbose (welcome endpoint version)
  printer.printIfVerbose usageHint

/-- Gives up what is under way; part of an interrupt. -/
def reset : Program Shell Unit :=
  onConnection Connection.interrupt

/-- Lets the next statement run normally. -/
def clearReset : Program Shell Unit :=
  onConnection Connection.clearInterrupt

/-! ## Parameters -/

/-- The query that has the server evaluate an expression. -/
def expressionQuery (expression : String) (parameters : Parameters) : Query :=
  { text := s!"RETURN {expression} AS value", parameters }

/-- The first value of the first row. -/
def firstValue? (o : Outcome) : Option Json :=
  o.rows.head?.bind List.head?

/-- Has the server evaluate an expression. -/
def evaluate (expression : String) : Attempt Shell Failure Json := do
  let query := expressionQuery expression (← get).parameters
  match firstValue? (← tryConnection (Connection.evaluate query)) with
  | some value => return value
  | none => throw (.refused (.noValue expression))

/-- Sets a parameter to the value of an expression: a JSON literal as it stands, anything else as
the server evaluates it. -/
def setParameter (name expression : String) : Attempt Shell Failure Json := do
  let value ← match Parameters.literal? expression with
    | some value => pure value
    | none => evaluate expression
  modify fun s =>
    { s with parameters := s.parameters.set (Command.unquote (Text.trim name)) value }
  return value

/-! ## Statements and commands -/

/-- Runs or queues a query with the parameters in force and prints its outcome. -/
def runQuery (text : String) : Attempt Shell Failure Unit := do
  let query := { text, parameters := (← get).parameters }
  if let some outcome ← tryConnection (Connection.runStatement query) then
    print (·.printOutcome outcome)

/-- The line of a history entry: its number, in three places or more, and its text. -/
def historyLine (number : Nat) (entry : String) : String :=
  let digits := Json.digits number
  String.ofList (List.replicate (3 - digits.length) ' ' ++ digits) ++ "  " ++ entry

/-- The lines that list a history. -/
def historyLines (entries : List String) : List String :=
  entries.mapIdx fun i entry => historyLine (i + 1) entry

/-- Runs a command. -/
def runCommand : Command → Attempt Shell Failure Unit
  | .exit => do
    print (·.printIfVerbose exitMessage)
    throw (.exit 0)
  | .begin => tryConnection Connection.begin
  | .commit => do
    (← tryConnection Connection.commit).forM fun outcome => print (·.printOutcome outcome)
  | .rollback => tryConnection Connection.rollback
  | .use database => tryConnection (Connection.switchDatabase database)
  | .setParam name value => do
    let value ← setParameter name value
    print (·.printIfVerbose value.text)
  | .listParams => do
    (← get).parameters.describe.forM fun line => print (·.printOut line)
  | .clearParams => modify fun s => { s with parameters := [] }
  | .history => do
    (historyLines (← get).listed.entries).forM fun line => print (·.printOut line)
  | .help none => print (·.printOut Command.helpListing)
  | .help (some topic) =>
    match Command.findHelp? topic with
    | some entry => print (·.printOut entry.text)
    | none => throw (.refused (.noSuchCommand topic))

/-- Runs a statement or command that is not blank. -/
def dispatch (statement : String) : Attempt Shell Failure Unit :=
  if (Text.trim statement).toList.head? = some Statement.commandMark then
    match Command.parse statement with
    | .ok c => runCommand c
    | .error misuse => throw (.refused (.misuse misuse))
  else runQuery statement

/-- What is remembered of an execution: a success clears the code of an earlier failure, and a
request to exit leaves it as it is. -/
def noteResult : Except Failure Unit → Shell → Shell
  | .ok (), s => { s with lastError? := none }
  | .error (.exit _), s => s
  | .error e, s => { s with lastError? := e.code? }

/-- Runs a statement or command; a blank one does nothing. -/
def execute (statement : String) : Attempt Shell Failure Unit :=
  if Text.allBlank statement then pure ()
  else do
    let result ← Attempt.lift (dispatch statement).run
    modify (noteResult result)
    ExceptT.mk (pure result)

end Shell

end QueryShell
