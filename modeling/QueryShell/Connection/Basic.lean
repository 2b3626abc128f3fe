import QueryShell.Connection.Link

/-
A connection to a server: disconnected, connected, or connected with an open transaction, whose
queries are queued here until it is committed. `isConnected`, `transactionOpen` and `version` are
what can be seen from outside.
-/
namespace QueryShell

/-- A connection and what is known about the server. -/
structure Connection where
  /-- A failed switch of databases goes back to the database before. -/
  interactive : Bool
  link : Link := {}
  /-- The queries of the open transaction. -/
  pending? : Option (List Query) := none
  /-- The latest bookmark, kept while there is no session to read it from. -/
  bookmark? : Option Bookmark := none
  /-- The version that the server reported. -/
  reported? : Option String := none
  /-- The database that was asked for, empty for the server's default. -/
  active : String := ""
  /-- The database that the server reported last. -/
  actual? : Option String := none
deriving Repr

namespace Connection

/-- The database name that stands for the server's default. -/
def defaultDatabase : String := ""

/-- The administrative database. -/
def systemDatabase : String := "system"

/-- Runs a program on the link. -/
def onLink {α : Type} (p : Program Link α) : Program Connection α :=
  p.zoom Connection.link fun link c => { c with link }

/-- Gives up what is under way. -/
def interrupt : Program Connection Unit :=
  onLink Link.reset

/-- Lets the driver serve requests again. -/
def clearInterrupt : Program Connection Unit :=
  onLink Link.clear

/-! ## What can be seen -/

/-- A transaction is open, and nobody asked for it to be discarded. -/
def transactionOpen (c : Connection) : Bool :=
  c.pending?.isSome && !c.link.discardRequested

/-- The session, if it is open. -/
def openSession? : Program Connection (Option Driver.SessionRef) := do
  match (← get).link.session? with
  | none => return none
  | some session =>
    let isOpen ← Program.driver (.isOpen session)
    return if isOpen then some session else none

/-- There is an open session. -/
def isConnected : Program Connection Bool := do
  return (← openSession?).isSome

/-- Takes a product name off a version: `Neo4j/5.12.0` becomes `5.12.0`. A product starts with an
ASCII letter. -/
def bareVersion (version : String) : String :=
  match version.toList.span (· ≠ '/') with
  | (c :: _, _ :: rest) => if c.isAlpha then String.ofList rest else version
  | _ => version

/-- The server's version, empty when it is unknown or there is no connection. -/
def version : Program Connection String := do
  if ← isConnected then return ((← get).reported?.map bareVersion).getD ""
  else return ""

/-! ## Steps of all operations -/

/-- Refuses an operation. -/
def refuse {α : Type} (r : Refusal) : Attempt Connection Failure α :=
  throw (.refused r)

/-- Takes the request to discard the transaction back. -/
def withdrawDiscard (c : Connection) : Connection :=
  { c with link := { c.link with discardRequested := false } }

/-- Closes the transaction on this side, whatever is queued. -/
def dropTransaction (c : Connection) : Connection :=
  { c with pending? := none, link := { c.link with transactionOpen := false } }

/-- Discards the transaction if an interrupt asked for it. -/
def applyDiscard (c : Connection) : Connection :=
  if c.link.discardRequested then c.withdrawDiscard.dropTransaction else c

/-- Discards the transaction if an interrupt asked for it; every operation starts like this. -/
def settle : Attempt Connection Failure Unit :=
  Attempt.lift (modify applyDiscard)

/-- Refuses an operation that needs a connection. -/
def requireConnected : Attempt Connection Failure Unit := do
  if !(← Attempt.lift isConnected) then refuse .notConnected

/-- The open session, or a refusal. -/
def requireSession : Attempt Connection Failure Driver.SessionRef := do
  match ← Attempt.lift openSession? with
  | some session => return session
  | none => refuse .notConnected

end Connection

end QueryShell
