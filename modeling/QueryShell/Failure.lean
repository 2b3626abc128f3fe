import QueryShell.Command.Basic
import QueryShell.Driver.Basic

/-
How an operation of the shell fails. `Failure` tells the causes apart and `Failure.message` says
them; a failed driver keeps the errors of the cleaning up behind it as `suppressed`.
-/
namespace QueryShell

/-- A request that was refused because of the state it found, or that made no sense. -/
inductive Refusal where
  | notConnected
  | alreadyConnected
  | transactionOpen
  | nothingToCommit
  | nothingToRollBack
  /-- The database cannot be switched inside a transaction. -/
  | transactionOpenOnSwitch
  | misuse (misuse : Command.Misuse)
  /-- There is no help on this command. -/
  | noSuchCommand (name : String)
  /-- The server returned no value for a parameter. -/
  | noValue (expression : String)
  /-- A refusal in someone else's words. -/
  | other (message : String)
deriving DecidableEq, Repr

/-- The refusal as the user reads it. -/
def Refusal.message : Refusal → String
  | .notConnected => "Not connected to the database"
  | .alreadyConnected => "Already connected"
  | .transactionOpen => "There is already an open transaction"
  | .nothingToCommit => "There is no open transaction to commit"
  | .nothingToRollBack => "There is no open transaction to rollback"
  | .transactionOpenOnSwitch =>
    "There is an open transaction. You need to close it before you can switch database."
  | .misuse m => m.message
  | .noSuchCommand name => s!"No such command: {name}"
  | .noValue expression => s!"Could not evaluate parameter value: {expression}"
  | .other message => message

/-- How the line editor of a terminal fails. -/
inductive EditorError where
  | endOfFile
  | interrupted
  | other (message : String)
deriving DecidableEq, Repr

/-- The editor's complaint. -/
def EditorError.message : EditorError → String
  | .endOfFile => "EOF"
  | .interrupted => "Interrupted"
  | .other message => message

/-- Why an operation failed. -/
inductive Failure where
  | refused (refusal : Refusal)
  /-- A driver failed, and `suppressed` failed while cleaning up after it. -/
  | transport (source : Driver.Error) (suppressed : List Driver.Error)
  | interrupted
  | noMoreInput
  /-- Not a failure as such: the shell was asked to end with this code. -/
  | exit (code : Int)
  | editor (error : EditorError)
  | io (message : String)
deriving DecidableEq, Repr, Inhabited

namespace Failure

/-- The failure as the user reads it. -/
def message : Failure → String
  | .refused r => r.message
  | .transport source _ => source.message
  | .interrupted => Driver.Error.interrupted.message
  | .noMoreInput => "No more input"
  | .exit code => s!"Exit requested with code {code}"
  | .editor e => s!"Line editor error: {e.message}"
  | .io m => s!"I/O error: {m}"

/-- The server's code, when the failure carries one. -/
def code? : Failure → Option String
  | .transport source _ => source.code?
  | _ => none

/-- The errors beneath the failure's own message. -/
def causes : Failure → List Driver.Error
  | .transport source _ => [source]
  | _ => []

/-- A driver's error; a request that was given up is an interrupt of the shell. -/
def ofDriver : Driver.Error → Failure
  | .interrupted => .interrupted
  | e => .transport e []

/-- A driver's error with the errors of the cleaning up; the two stay together. -/
def ofTransport (source : Driver.Error) : List Driver.Error → Failure
  | [] => ofDriver source
  | suppressed => .transport source suppressed

/-- Text was expected, and the bytes are not UTF-8. -/
def notUtf8 : Failure :=
  .io "stream did not contain valid UTF-8"

/-- The failure is a request to end. -/
def isExit : Failure → Bool
  | .exit _ => true
  | _ => false

end Failure

end QueryShell
