import QueryShell.Loop.Basic

/-
Running the loop: lines are read and cut into statements, completed statements go into the history
and are executed one after the other, until the input ends, a statement asks to exit, or the error
policy stops the run. Each program that reads is bounded by the number of reads; `none` means that
they were not enough.
-/
namespace QueryShell.Loop

variable {ε : Type}

/-! ## Reading -/

/-- Adds a completed statement to the history and makes it available to the editor. -/
def record (x : Executor ε) (statement : String) : Program (Loop ε) Unit := do
  modify fun l =>
    let history := l.history.append statement
    { l with history, executor := x.noteHistory history.entries l.executor }
  if let some entry := History.entryOf? statement then
    Program.console (.recall entry)

/-- Puts a line into the splitter and takes the completed statements out. -/
def takeLine (text : String) : Program (Loop ε) (List String) :=
  modifyGet fun l =>
    let (splitter, statements) := l.splitter.feed text
    (statements, { l with splitter })

/-- Reads once, and tells which statements that completed. An interrupt gives up the text so far. -/
def readOnce (x : Executor ε) : Attempt (Loop ε) Failure (List String) := do
  let prompt ← Attempt.lift (prompt x)
  match ← Attempt.ofProgram (.console (.readLine prompt)) with
  | .line text =>
    let statements ← Attempt.lift (takeLine text)
    Attempt.lift (statements.forM (record x))
    return statements
  | .interrupted =>
    modify fun l => { l with splitter := .empty }
    Attempt.lift (handle x)
    return []
  | .endOfInput => throw .noMoreInput

/-- Reads until a statement is complete. -/
def readStatements (x : Executor ε) : Nat → Attempt (Loop ε) Failure (Option (List String))
  | 0 => return none
  | reads + 1 => do
    match ← readOnce x with
    | [] => readStatements x reads
    | statements => return some statements

/-! ## Executing -/

/-- Lets the next statement run normally and marks its start. -/
def beginExecution (x : Executor ε) : Program (Loop ε) Unit := do
  onExecutor x.clearReset
  onExecution Execution.start

/-- Marks the end of a statement, and tells whether it was cancelled. -/
def endExecution : Program (Loop ε) Bool :=
  modifyGet fun l => (l.execution.cancelled, { l with execution := l.execution.finish })

/-- Executes one statement. -/
def execute (x : Executor ε) (statement : String) : Attempt (Loop ε) Failure Unit := do
  Attempt.lift (beginExecution x)
  let result ← Attempt.lift (tryExecutor (x.execute statement)).run
  let cancelled ← Attempt.lift endExecution
  ExceptT.mk (pure (Execution.result cancelled result))

/-- The exit code of a run that did what it should. -/
def exitSuccess : Int := 0

/-- The exit code of a run that failed. -/
def exitFailure : Int := 1

/-- Executes statements one after the other. The result is the exit code if the run ends here. -/
def executeAll (x : Executor ε) : List String → Program (Loop ε) (Option Int)
  | [] => return none
  | statement :: rest => do
    match ← (execute x statement).run with
    | .ok () => executeAll x rest
    | .error (.exit code) => return some code
    | .error e =>
      modify fun l => { l with failed := true }
      let l ← get
      l.printer.printError e
      if l.settings.policy = .failFast then return some exitFailure
      else executeAll x rest

/-! ## Running -/

/-- The exit code at the end of the input; a failure counts unless the policy is to carry on. -/
def endOfInputCode (policy : ErrorPolicy) (failed : Bool) : Int :=
  if policy ≠ .carryOn ∧ failed then exitFailure else exitSuccess

/-- Reads and executes; `lastFailed` tells whether the executor had an error code when it was last
asked. -/
def readAndExecute (x : Executor ε) : Nat → Bool → Program (Loop ε) (Option Int)
  | 0, _ => return none
  | reads + 1, lastFailed => do
    match ← (readOnce x).run with
    | .ok [] => readAndExecute x reads lastFailed
    | .ok statements =>
      match ← executeAll x statements with
      | some code => return some code
      | none =>
        let code? ← onExecutor x.lastErrorCode
        readAndExecute x reads code?.isSome
    | .error .noMoreInput =>
      let l ← get
      l.printer.printIfVerbose Shell.farewell
      return some (endOfInputCode l.settings.policy (l.failed || lastFailed))
    | .error (.exit code) => return some code
    | .error e =>
      (← get).printer.printError e
      return some exitFailure

/-- Saves the history. -/
def saveHistory : Attempt (Loop ε) Failure Unit := do
  (← get).history.save

/-- Saves the history; a failure costs a warning. -/
def trySaveHistory : Program (Loop ε) Unit := do
  if let .error e ← saveHistory.run then
    Program.warn .loop s!"Failed to save history: {e.message}"

/-- Runs until the input ends or something asks to stop, and saves the history. The result is the
exit code. -/
def runUntilEnd (x : Executor ε) (reads : Nat) : Program (Loop ε) (Option Int) := do
  let code? ← onExecutor x.lastErrorCode
  match ← readAndExecute x reads code?.isSome with
  | none => return none
  | some code =>
    trySaveHistory
    return some code

end QueryShell.Loop
