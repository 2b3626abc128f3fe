import QueryShell.Shell.Basic

/-
What a loop needs of whoever runs its statements: programs over the executor's own state `ε`. A
shell is an executor; `Executor.delegated` leaves everything to one outside of this library, so that
what is proved of a loop over it holds whatever statements do.
-/
namespace QueryShell

/-- Runs statements. -/
structure Executor (ε : Type) where
  execute : String → Attempt ε Failure Unit
  /-- The code of the latest execution, if it failed with one. -/
  lastErrorCode : Program ε (Option String)
  /-- Gives up what is under way, and what starts from now on, until `clearReset`. -/
  reset : Program ε Unit
  clearReset : Program ε Unit
  standing : Program ε Standing
  /-- Tells the executor what the history of the loop is now. -/
  noteHistory : List String → ε → ε := fun _ x => x

namespace Executor

/-- What the prompt shows of a connection. -/
def standingOf (c : Connection) : Standing :=
  { transactionOpen := c.transactionOpen, active := c.active, actual := c.actual?.getD "" }

/-- The shell as an executor. -/
def shell : Executor Shell where
  execute := Shell.execute
  lastErrorCode := return (← get).lastError?
  reset := Shell.reset
  clearReset := Shell.clearReset
  standing := return standingOf (← get).connection
  noteHistory entries s := { s with listed := s.listed.follow entries }

/-- An executor outside of this library. -/
def delegated : Executor Unit where
  execute statement := Attempt.ofProgram (Program.delegate (.execute statement))
  lastErrorCode := Program.delegate .lastErrorCode
  reset := Program.delegate .reset
  clearReset := Program.delegate .clearReset
  standing := Program.delegate .standing

end Executor

end QueryShell
