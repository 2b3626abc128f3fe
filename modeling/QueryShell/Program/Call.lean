import QueryShell.Failure

/-
What a program asks of the world around it: drivers, the console, files, and an executor that runs
statements elsewhere. `Call.Reply` is the type of the answer.
-/
namespace QueryShell

/-! ## Console -/

/-- Where text for the user goes. -/
inductive Sink where
  | out
  | err
deriving DecidableEq, Repr

/-- The part of the shell that a warning comes from. -/
inductive Origin where
  | connection
  | reset
  | printer
  | loop
  | startup
deriving DecidableEq, Repr

/-- The name of a part in the log. -/
def Origin.name : Origin → String
  | .connection => "graphshell::session::manager"
  | .reset => "graphshell::session::reset"
  | .printer => "graphshell::output"
  | .loop => "graphshell::runner::interactive"
  | .startup => "graphshell::cli::startup"

/-- What was read instead of, or as, a line. -/
inductive Read where
  /-- A physical line, without its end. -/
  | line (text : String)
  /-- The user gave up what was typed so far. -/
  | interrupted
  | endOfInput
deriving DecidableEq, Repr

/-- Where lines are read from. -/
inductive Source where
  | standard
  | file (path : String)
  /-- A terminal, whose editor can recall the given entries. -/
  | editor (entries : List String)
deriving DecidableEq, Repr

/-- What can be asked of the console. -/
inductive Console.Call where
  /-- Writes the text at once. -/
  | print (sink : Sink) (text : String)
  | warn (origin : Origin) (text : String)
  | openSource (source : Source)
  | readLine (prompt : String)
  /-- Makes an entry available to the editor. -/
  | recall (entry : String)
  /-- Reads one line from standard input. -/
  | askLine
  /-- Reads one line from the terminal without showing it. -/
  | askSecret
deriving DecidableEq, Repr

/-- The type of the reply to a call. A failed print is described by its reason. -/
@[reducible] def Console.Call.Reply : Console.Call → Type
  | .print _ _ => Except String Unit
  | .warn _ _ => Unit
  | .openSource _ => Except Failure Unit
  | .readLine _ => Except Failure Read
  | .recall _ => Unit
  | .askLine => Except Failure String
  | .askSecret => Except Failure String

/-! ## Files -/

/-- What is found at a path. -/
inductive Found where
  | nothing
  | bytes (contents : List UInt8)
  | unreadable (reason : String)
deriving DecidableEq, Repr

/-- What can be asked of the file system. -/
inductive Files.Call where
  | read (path : String)
  /-- Makes a directory and those above it, unless they are there. -/
  | makeDirectory (path : String)
  | write (path contents : String)
deriving DecidableEq, Repr

/-- The type of the reply to a call. A failure is described by its reason. -/
@[reducible] def Files.Call.Reply : Files.Call → Type
  | .read _ => Found
  | .makeDirectory _ => Except String Unit
  | .write _ _ => Except String Unit

/-! ## Delegated execution -/

/-- What the prompt shows of an executor. -/
structure Standing where
  transactionOpen : Bool := false
  /-- The database that was asked for, empty for the server's default. -/
  active : String := ""
  /-- The database that the server reported, empty when unknown. -/
  actual : String := ""
deriving DecidableEq, Repr

/-- What can be asked of an executor that is not part of this library. -/
inductive Delegate.Call where
  | execute (statement : String)
  | lastErrorCode
  | reset
  | clearReset
  | standing
deriving DecidableEq, Repr

/-- The type of the reply to a call. -/
@[reducible] def Delegate.Call.Reply : Delegate.Call → Type
  | .execute _ => Except Failure Unit
  | .lastErrorCode => Option String
  | .reset => Unit
  | .clearReset => Unit
  | .standing => Standing

/-! ## All calls -/

/-- What a program can ask. -/
inductive Call where
  | driver (call : Driver.Call)
  | console (call : Console.Call)
  | files (call : Files.Call)
  | delegate (call : Delegate.Call)

/-- The type of the reply to a call. -/
@[reducible] def Call.Reply : Call → Type
  | .driver call => call.Reply
  | .console call => call.Reply
  | .files call => call.Reply
  | .delegate call => call.Reply

end QueryShell
