import QueryShell.History.File
import QueryShell.Loop.Executor

/-
The read and execute loop: its state, its prompt, and how it reacts to interrupts. An interrupt
while a statement runs cancels that statement; any other only reminds the user how to end the input.
-/
namespace QueryShell

/-! ## Execution -/

/-- Whether a statement runs, and whether it was cancelled. -/
structure Execution where
  executing : Bool := false
  cancelled : Bool := false
deriving DecidableEq, Repr

namespace Execution

/-- A statement starts. -/
def start (_ : Execution) : Execution :=
  { executing := true, cancelled := false }

/-- A statement is cancelled. -/
def cancel (e : Execution) : Execution :=
  { e with cancelled := true }

/-- The statement has ended. -/
def finish (_ : Execution) : Execution :=
  { executing := false, cancelled := false }

/-- The result of a statement, which was cancelled or not: failures of a cancelled statement are
interrupts, while success and a request to exit stand. -/
def result (cancelled : Bool) : Except Failure Unit → Except Failure Unit
  | .ok () => .ok ()
  | .error e => .error (if cancelled && !e.isExit then .interrupted else e)

end Execution

/-! ## State -/

/-- The settings of a loop. -/
structure LoopSettings where
  /-- Shown in the prompt. -/
  username : String := ""
  policy : ErrorPolicy := .carryOn
  /-- A longer identity puts the prompt on a line of its own. -/
  promptWidth : Nat := defaultPromptWidth
  /-- Interrupts of the process are interrupts of the loop while it runs. -/
  trapInterrupts : Bool := false
deriving DecidableEq, Repr

/-- The loop's part of a run's settings. -/
def LoopSettings.of (s : Settings) (username : String) : LoopSettings :=
  { username, policy := s.policy, promptWidth := s.promptWidth, trapInterrupts := s.interactive }

/-- A loop over an executor with state `ε`. -/
structure Loop (ε : Type) where
  settings : LoopSettings := {}
  printer : Printer
  executor : ε
  splitter : Statement.Accumulator := .empty
  history : History := {}
  execution : Execution := {}
  /-- A statement has failed. -/
  failed : Bool := false

/-! ## Prompt -/

namespace Prompt

/-- The end of a prompt. -/
def suffix (transactionOpen : Bool) : String :=
  if transactionOpen then "# " else "> "

/-- Who works on which database, as far as it is known. Without a database it is the user alone. -/
def identity (username : String) (standing : Standing) : String :=
  let database := if standing.actual.isEmpty then standing.active else standing.actual
  if database.isEmpty then username
  else if username.isEmpty then database
  else s!"{username}@{database}"

/-- The prompt for the first line of a statement, and for a further one. A line that goes on with a
statement is indented as far as the first, unless that had the identity on a line of its own. -/
def text (settings : LoopSettings) (standing : Standing) (pending : Bool) : String :=
  let identity := identity settings.username standing
  let suffix := suffix standing.transactionOpen
  let width := identity.length
  let wrapped := settings.promptWidth < width
  if pending then
    if wrapped then "" else String.ofList (List.replicate (width + suffix.length) ' ')
  else if wrapped then identity ++ "\n" ++ suffix
  else identity ++ suffix

end Prompt

namespace Loop

variable {ε α : Type}

/-- Runs a program on the executor. -/
def onExecutor (p : Program ε α) : Program (Loop ε) α :=
  p.zoom Loop.executor fun executor l => { l with executor }

/-- Attempts something on the executor. -/
def tryExecutor (p : Attempt ε Failure α) : Attempt (Loop ε) Failure α :=
  p.zoom Loop.executor fun executor l => { l with executor }

/-- Runs a program on the execution state. -/
def onExecution (f : Execution → Execution) : Program (Loop ε) Unit :=
  modify fun l => { l with execution := f l.execution }

/-- The prompt for the next line. -/
def prompt (x : Executor ε) : Program (Loop ε) String := do
  let standing ← onExecutor x.standing
  let l ← get
  return Prompt.text l.settings standing l.splitter.hasPendingText

/-! ## Interrupts -/

/-- Reacts to an interrupt. -/
def handle (x : Executor ε) : Program (Loop ε) Unit := do
  let l ← get
  if l.execution.executing then
    onExecution Execution.cancel
    onExecutor x.reset
  else
    l.printer.printErrorMessage Shell.interruptNotice
    let _ ← onExecutor x.lastErrorCode

end Loop

end QueryShell
