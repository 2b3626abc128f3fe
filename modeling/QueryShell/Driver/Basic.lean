import QueryShell.Query
import QueryShell.Settings

/-
A driver connects to one server and opens sessions on it; a session runs queries. Both live outside
of this library and are known by reference; `Driver.Call` lists what can be asked of them.

A driver that has been interrupted answers `interrupted` to whatever is under way and to all later
requests, until the interrupt is cleared. A closed session does not open again.
-/
namespace QueryShell

namespace Driver

/-! ## Errors -/

/-- How a driver or session fails. -/
inductive Error where
  /-- The credentials were rejected. -/
  | authentication (message : String)
  /-- The server could not be reached. -/
  | unavailable (message : String)
  /-- The session can serve no further request and has to be opened again. -/
  | sessionExpired (message : String)
  /-- The server rejected the statement. -/
  | server (code message : String)
  /-- The answer was not understood, or the driver itself failed. -/
  | protocol (message : String)
  /-- The request was given up. -/
  | interrupted
deriving DecidableEq, Repr, Inhabited

/-- The code a server gives when it rejects credentials. -/
def unauthorizedCode : String := "Neo.ClientError.Security.Unauthorized"

namespace Error

/-- The message as the user reads it. -/
def message : Error → String
  | .authentication m | .unavailable m | .sessionExpired m | .server _ m | .protocol m => m
  | .interrupted => "Execution interrupted"

/-- The server's code, when there is one. -/
def code? : Error → Option String
  | .server code _ => some code
  | .authentication _ => some unauthorizedCode
  | _ => none

end Error

/-! ## Calls -/

/-- Refers to an open driver. -/
structure Ref where
  number : Nat
deriving DecidableEq, Repr

/-- Refers to an opened session. -/
structure SessionRef where
  number : Nat
deriving DecidableEq, Repr

/-- What can be asked of drivers and sessions. -/
inductive Call where
  | openDriver (endpoint : Endpoint)
  /-- Fails when the server cannot be reached or rejects the credentials. -/
  | verify (driver : Ref)
  | openSession (driver : Ref) (config : SessionConfig)
  /-- Runs one query in a transaction of its own. -/
  | run (session : SessionRef) (query : Query)
  /-- Runs all queries in one transaction. -/
  | write (session : SessionRef) (queries : List Query)
  /-- Gives up what is under way on a session. -/
  | resetSession (session : SessionRef)
  | closeSession (session : SessionRef)
  | closeDriver (driver : Ref)
  | interrupt (driver : Ref)
  | clearInterrupt (driver : Ref)
  | isOpen (session : SessionRef)
  | lastBookmark (session : SessionRef)
deriving Repr

/-- The type of the reply to a call. -/
@[reducible] def Call.Reply : Call → Type
  | .openDriver _ => Except Error Ref
  | .verify _ => Except Error Unit
  | .openSession _ _ => Except Error SessionRef
  | .run _ _ => Except Error Outcome
  | .write _ _ => Except Error (List Outcome)
  | .resetSession _ => Except Error Unit
  | .closeSession _ => Except Error Unit
  | .closeDriver _ => Except Error Unit
  | .interrupt _ => Unit
  | .clearInterrupt _ => Unit
  | .isOpen _ => Bool
  | .lastBookmark _ => Option Bookmark

end Driver

end QueryShell
