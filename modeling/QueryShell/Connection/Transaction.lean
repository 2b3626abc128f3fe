import QueryShell.Connection.Open

/-
Running queries. Inside a transaction queries are queued and sent as a whole by `commit`; outside of
one each is sent at once, and once more on a new session if the server says that the session has
expired.
-/
namespace QueryShell.Connection

/-! ## Transactions -/

/-- Starts an empty queue. -/
def openTransaction (c : Connection) : Connection :=
  { c with pending? := some [], link := { c.link with transactionOpen := true } }

/-- Takes the queue, so that the transaction is closed. -/
def takePending : Program Connection (Option (List Query)) :=
  modifyGet fun c =>
    match c.pending? with
    | none => (none, c)
    | some queries => (some queries, c.dropTransaction)

/-- Adds a query to the queue. -/
def enqueue (query : Query) (c : Connection) : Connection :=
  { c with pending? := c.pending?.map (· ++ [query]) }

/-- Opens a transaction. -/
def begin : Attempt Connection Failure Unit := do
  settle
  requireConnected
  if (← get).pending?.isSome then refuse .transactionOpen
  modify openTransaction

/-- Takes over the database that the server reported, if it did. -/
def noteDatabase (database? : Option String) (c : Connection) : Connection :=
  { c with actual? := database?.or c.actual? }

/-- Sends the queued queries in one transaction and closes it, whatever comes of it. -/
def commit : Attempt Connection Failure (List Outcome) := do
  settle
  requireConnected
  match ← Attempt.lift takePending with
  | none => refuse .nothingToCommit
  | some [] => return []
  | some queries =>
    let session ← requireSession
    let outcomes ← (Attempt.ofProgram (.driver (.write session queries))).mapError .ofDriver
    modify (noteDatabase (outcomes.getLast?.bind (·.database)))
    return outcomes

/-- Closes the transaction and forgets its queries. -/
def rollback : Attempt Connection Failure Unit := do
  settle
  requireConnected
  match ← Attempt.lift takePending with
  | none => refuse .nothingToRollBack
  | some _ => return

/-! ## Queries -/

/-- Sends a query, and once more on a new session if the session has expired. -/
def runNow (query : Query) : Attempt Connection Failure Outcome := do
  let session ← requireSession
  let outcome ← match ← Attempt.lift (.driver (.run session query)) with
    | .ok outcome => pure outcome
    | .error (.sessionExpired _) => do
      Attempt.mapError .ofDriver reconnect
      let session ← requireSession
      Attempt.mapError .ofDriver (Attempt.ofProgram (.driver (.run session query)))
    | .error e => throw (.ofDriver e)
  modify (noteDatabase outcome.database)
  return outcome

/-- Queues a query inside a transaction, without an outcome, or else sends it. -/
def runStatement (query : Query) : Attempt Connection Failure (Option Outcome) := do
  settle
  requireConnected
  if (← get).pending?.isSome then
    modify (enqueue query)
    return none
  else
    return some (← runNow query)

/-- Sends a query at once, even inside a transaction. -/
def evaluate (query : Query) : Attempt Connection Failure Outcome := do
  settle
  requireConnected
  runNow query

/-- Gives up what is under way and discards the transaction. -/
def reset : Program Connection Unit := do
  interrupt
  clearInterrupt
  modify applyDiscard

end QueryShell.Connection
