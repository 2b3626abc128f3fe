import QueryShell.Connection.Basic

/-
Opening and closing. A connection is opened by a driver of its own; each session after that is
opened by `reconnect`, which hands the bookmark of the session before on to it and asks the server
for its version and database. What fails while a failed operation is cleaned up is kept behind that
operation's own error.
-/
namespace QueryShell.Connection

/-! ## Sessions -/

/-- Takes the session out of the link. -/
def takeSession : Program Connection (Option Driver.SessionRef) :=
  modifyGet fun c => (c.link.session?, { c with link := { c.link with session? := none } })

/-- Takes the driver out of the link. -/
def takeDriver : Program Connection (Option Driver.Ref) :=
  modifyGet fun c => (c.link.driver?, { c with link := { c.link with driver? := none } })

/-- Puts a session into the link. -/
def putSession (session : Driver.SessionRef) : Program Connection Unit :=
  modify fun c => { c with link := { c.link with session? := some session } }

/-- Puts a driver into the link. -/
def putDriver (driver : Driver.Ref) : Program Connection Unit :=
  modify fun c => { c with link := { c.link with driver? := some driver } }

/-- Keeps the latest bookmark: that of the session before, or else the one kept so far. -/
def saveBookmark (latest? : Option Bookmark) : Program Connection (Option Bookmark) :=
  modifyGet fun c =>
    let bookmark? := latest?.or c.bookmark?
    (bookmark?, { c with bookmark? })

/-- How a session on a database is opened. -/
def sessionConfig (database : String) (bookmark? : Option Bookmark) : SessionConfig where
  database := if database = defaultDatabase then none else some database
  bookmark := bookmark?

/-- The query that tests a new session. -/
def probe (database : String) : Query :=
  { text := if database.toLower = systemDatabase then "SHOW DATABASES" else "RETURN 1" }

/-- Takes over what the server reported. -/
def noteServer (o : Outcome) (c : Connection) : Connection :=
  { c with reported? := o.version, actual? := o.database }

/-- Closes the session before, if there is one, and saves its bookmark. -/
def retireSession : Program Connection (Option Bookmark) := do
  let previous? ← takeSession
  let latest? ← match previous? with
    | some session => Program.driver (.lastBookmark session)
    | none => pure none
  let bookmark? ← saveBookmark latest?
  if let some session := previous? then
    if let .error e ← Program.driver (.closeSession session) then
      Program.warn .connection s!"Failed to close previous session: {e.message}"
  return bookmark?

/-- Replaces the session by a fresh one on the active database. -/
def reconnect : Attempt Connection Driver.Error Unit := do
  let some driver := (← get).link.driver?
    | throw (.protocol "Driver is not initialised")
  let bookmark? ← Attempt.lift retireSession
  Attempt.ofProgram (.driver (.verify driver))
  let config := sessionConfig (← get).active bookmark?
  let session ← Attempt.ofProgram (.driver (.openSession driver config))
  Attempt.lift (putSession session)
  let outcome ← Attempt.ofProgram (.driver (.run session (probe (← get).active)))
  modify (noteServer outcome)

/-! ## Connections -/

/-- Forgets everything about a connection. -/
def forget (c : Connection) : Connection :=
  { c.dropTransaction.withdrawDiscard with bookmark? := none, reported? := none, actual? := none }

/-- Closes session and driver, and tells what failed on the way. -/
def tearDown : Program Connection (List Driver.Error) := do
  let ofSession ← match ← takeSession with
    | some session => do
      match ← Program.driver (.closeSession session) with
      | .ok () => pure []
      | .error e => pure [e]
    | none => pure []
  let ofDriver ← match ← takeDriver with
    | some driver => do
      match ← Program.driver (.closeDriver driver) with
      | .ok () => pure []
      | .error e => pure [e]
    | none => pure []
  modify forget
  return ofSession ++ ofDriver

/-- Opens a driver and a first session. -/
def establish (endpoint : Endpoint) : Attempt Connection Driver.Error Unit := do
  let driver ← Attempt.ofProgram (.driver (.openDriver endpoint))
  Attempt.lift (putDriver driver)
  reconnect

/-- Connects. A failed connect leaves nothing behind. -/
def connect (endpoint : Endpoint) : Attempt Connection Failure Unit := do
  settle
  if ← Attempt.lift isConnected then refuse .alreadyConnected
  modify fun c => { c with active := endpoint.database }
  match ← Attempt.lift (establish endpoint).run with
  | .ok () => return
  | .error source => throw (.ofTransport source (← Attempt.lift tearDown))

/-- Disconnects; what fails on the way costs a warning. -/
def disconnect : Program Connection Unit := do
  (← tearDown).forM fun e => Program.warn .connection s!"Error while disconnecting: {e.message}"

/-! ## Databases -/

/-- Makes a database the active one and tells which one was it before. -/
def activate (database : String) : Program Connection String :=
  modifyGet fun c => (c.active, { c with active := database })

/-- Switches to a database, with a session of its own. When that fails and someone is there to go
on, the database before becomes active again, with a session of its own if possible. -/
def switchDatabase (database : String) : Attempt Connection Failure Unit := do
  settle
  if (← get).transactionOpen then refuse .transactionOpenOnSwitch
  let previous ← Attempt.lift (activate database)
  if !(← Attempt.lift isConnected) then return
  if let .error source ← Attempt.lift reconnect.run then
    if (← get).interactive then
      let _ ← Attempt.lift (activate previous)
      match ← Attempt.lift reconnect.run with
      | .ok () => throw (.ofTransport source [])
      | .error e => throw (.ofTransport source [e])
    throw (.ofTransport source [])

end QueryShell.Connection
