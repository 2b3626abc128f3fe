import QueryShell.Loop.Run
import QueryShell.Proofs.Program.Threads

/-
The loop and its interrupts as threads. The loop starts and ends a statement under a lock, and asks
the executor in between; an interrupt decides under the same lock whether a statement runs, and
cancels it or reminds the user. `executeAll_program` and `handle_program` tie the threads to the
programs of the loop. An interrupt may come at any time, more than one of them may be on its way, and
all steps are interleaved in every possible way.
-/
namespace QueryShell.Loop

open Program

/-! ## Threads -/

/-- What is done at once. -/
inductive Mark where
  | began (statement : String)
  /-- A statement ends; the executor's reply became its result. -/
  | ended (statement : String) (reply result : Except Failure Unit)
  /-- The loop remembers that a statement has failed. -/
  | failed
  /-- An interrupt found a statement to cancel, or none. -/
  | handled (cancelled : Bool)

/-- A thread over the state of a loop. -/
abbrev LoopThread := Thread (Loop Unit) Mark

/-- Writes a line and goes on. -/
def writeLineThread {α : Type} (sink : Sink) (text : String) (next : LoopThread α) : LoopThread α :=
  .call (.console (.print sink (text ++ "\n"))) fun reply =>
    match reply with
    | .ok () => next
    | .error reason =>
      .call (.console (.warn .printer s!"Failed to write output: {reason}")) fun _ => next

/-- A line as a printer writes it to the user as an error. -/
def errorLine (printer : Printer) (message : String) : String :=
  if printer.colors then red message else message

/-- Ends a statement, whose result is what comes of the executor's reply. -/
def finishThread {α : Type} (statement : String) (reply : Except Failure Unit)
    (next : Except Failure Unit → LoopThread α) : LoopThread α :=
  .atomic (fun cancelled => .ended statement reply (Execution.result cancelled reply)) endExecution
    fun cancelled => next (Execution.result cancelled reply)

/-- Executes one statement. -/
def executeThread {α : Type} (statement : String) (next : Except Failure Unit → LoopThread α) :
    LoopThread α :=
  .atomic (fun _ => .began statement) (beginExecution .delegated) fun _ =>
    .call (.delegate (.execute statement)) fun reply => finishThread statement reply next

/-- Remembers that a statement has failed. -/
def noteFailure : Program (Loop Unit) (Loop Unit) := do
  modify fun l => { l with failed := true }
  get

/-- Executes statements one after the other. -/
def executeAllThread : List String → LoopThread (Option Int)
  | [] => .done none
  | statement :: rest =>
    executeThread statement fun result =>
      match result with
      | .ok () => executeAllThread rest
      | .error (.exit code) => .done (some code)
      | .error e =>
        .atomic (fun _ => .failed) noteFailure fun l =>
          writeLineThread .err (errorLine l.printer e.message)
            (if l.settings.policy = .failFast then .done (some exitFailure)
              else executeAllThread rest)

/-- Cancels the statement that runs, if one does. Without one the printer for a reminder is given. -/
def cancelRunning : Program (Loop Unit) (Option Printer) := do
  let l ← get
  if l.execution.executing then
    onExecution Execution.cancel
    onExecutor Executor.delegated.reset
    return none
  else
    return some l.printer

/-- The call that looks whether the latest execution failed. -/
def probeCall : Call := .delegate .lastErrorCode

/-- The call that prints the reminder. -/
def noticeCall (printer : Printer) : Call :=
  .console (.print .err (errorLine printer Shell.interruptNotice ++ "\n"))

/-- Reminds the user how to end the input. -/
def remindThread (printer : Printer) : LoopThread Unit :=
  writeLineThread .err (errorLine printer Shell.interruptNotice) (.call probeCall fun _ => .done ())

/-- Reacts to an interrupt. -/
def handleThread : LoopThread Unit :=
  .atomic (fun printer? => .handled printer?.isNone) cancelRunning fun printer? =>
    match printer? with
    | none => .done ()
    | some printer => remindThread printer

/-! ## The programs that the threads stand for -/

theorem writeLineThread_program {α : Type} (sink : Sink) (text : String) (next : LoopThread α) :
    (writeLineThread sink text next).program =
      Printer.writeLine sink text >>= fun _ => next.program := by
  show Program.ask _ _ = Program.ask _ _
  congr 1
  funext reply
  cases reply <;> rfl

/-- The thread of an interrupt is the loop's own way to react to one. -/
theorem handle_program : handleThread.program = Loop.handle .delegated := by
  unfold handleThread cancelRunning Loop.handle
  simp only [Thread.program, bind_assoc]
  refine bind_congr fun l => ?_
  split
  · rfl
  · rw [pure_bind]
    exact writeLineThread_program _ _ _

/-- What follows the result of a statement. -/
theorem afterExecute_program (rest : List String)
    (ih : (executeAllThread rest).program = Loop.executeAll .delegated rest) (e : Failure) :
    (Thread.atomic (fun _ => Mark.failed) noteFailure fun l =>
      writeLineThread .err (errorLine l.printer e.message)
        (if l.settings.policy = .failFast then .done (some exitFailure)
          else executeAllThread rest)).program =
      (do
        modify fun l => { l with failed := true }
        let l ← get
        l.printer.printError e
        if l.settings.policy = .failFast then return some exitFailure
        else Loop.executeAll .delegated rest : Program (Loop Unit) (Option Int)) := by
  unfold noteFailure
  simp only [Thread.program, bind_assoc]
  refine bind_congr fun _ => bind_congr fun l => ?_
  rw [writeLineThread_program]
  refine bind_congr fun _ => ?_
  split
  · rfl
  · exact ih

/-- The thread of the loop is its own way to execute statements. -/
theorem executeAll_program (statements : List String) :
    (executeAllThread statements).program = Loop.executeAll .delegated statements := by
  induction statements with
  | nil => rfl
  | cons statement rest ih =>
    unfold executeAllThread executeThread finishThread Loop.executeAll Loop.execute
    simp only [Thread.program, Attempt.lift, ExceptT.run_bind, ExceptT.run_lift, map_eq_pure_bind,
      bind_assoc, pure_bind]
    refine bind_congr fun _ => ?_
    show Program.ask _ _ = Program.ask _ _
    congr 1
    funext reply
    refine bind_congr fun cancelled => ?_
    generalize Execution.result cancelled reply = result
    rcases result with e | _
    · cases e with
      | exit code => rfl
      | _ => exact afterExecute_program rest ih _
    · exact ih

end QueryShell.Loop
