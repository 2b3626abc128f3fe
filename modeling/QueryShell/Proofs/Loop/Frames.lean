import QueryShell.Loop.Run
import QueryShell.Proofs.Program.Printing

/-
The parts of the loop, whoever executes its statements. A part makes a few calls and changes of state of
its own; what a frame holds of these it holds of the part, whatever comes in between.
-/
namespace QueryShell.Loop

open Program

variable {ε α : Type} {between holds : Interference (Loop ε)}

/-! ## Reports -/

section Reports

variable {l l' : Loop ε} {events : List Event} {a : α}

/-- A failure is noted and reported before the policy decides what comes of it. -/
theorem runs_report {e : Failure} {next : Loop ε → Program (Loop ε) α}
    (h : Runs between
      (do
        modify fun l => { l with failed := true }
        let l ← get
        l.printer.printError e
        next l) l events a l') :
    ∃ first m second, Runs between (l.printer.printError e) { l with failed := true } first () m ∧
      Runs between (next { l with failed := true }) m second a l' ∧ events = first ++ second := by
  obtain ⟨_, _, _, _, hnote, hreport, rfl⟩ := runs_bind h
  obtain ⟨rfl, rfl⟩ := runs_modify hnote
  obtain ⟨_, _, _, _, hget, hprint, rfl⟩ := runs_bind hreport
  obtain ⟨rfl, rfl, rfl⟩ := runs_get hget
  obtain ⟨first, _, m, second, hwrite, hnext, rfl⟩ := runs_bind hprint
  exact ⟨first, m, second, hwrite, hnext, rfl⟩

/-- Something is printed last. -/
theorem runs_print_last {p : Printer → Program (Loop ε) Unit} {f : Loop ε → α}
    (h : Runs between (do let l ← get; p l.printer; return f l) l events a l') :
    Runs between (p l.printer) l events () l' ∧ a = f l := by
  obtain ⟨_, _, _, _, hget, hrest, rfl⟩ := runs_bind h
  obtain ⟨rfl, rfl, rfl⟩ := runs_get hget
  obtain ⟨first, _, m, second, hprinted, hpure, rfl⟩ := runs_bind hrest
  obtain ⟨rfl, rfl, rfl⟩ := runs_pure hpure
  exact ⟨by simpa using hprinted, rfl⟩

end Reports

/-! ## Interrupts, reading and saving -/

section Frames

variable {x : Executor ε} (hframe : Frame holds)

include hframe

/-- An interrupt cancels and gives up, or it prints a notice and asks for the latest code. -/
theorem obeys_handle (hcancel : ∀ l, holds l [] { l with execution := l.execution.cancel })
    (hreset : Obeys between holds (onExecutor x.reset))
    (hnotice : ∀ sink text, Obeys between holds (Printer.writeLine sink text))
    (hprobe : Obeys between holds (onExecutor x.lastErrorCode)) : Obeys between holds (handle x) := by
  refine hframe.obeys_bind hframe.obeys_get fun l => ?_
  split
  · exact hframe.obeys_bind (obeys_modify hcancel) fun _ => hreset
  · refine hframe.obeys_bind (hnotice _ _) fun _ => ?_
    exact hframe.obeys_bind hprobe fun _ => hframe.obeys_pure ()

/-- The prompt asks where the executor stands. -/
theorem obeys_prompt (hstanding : Obeys between holds (onExecutor x.standing)) :
    Obeys between holds (prompt x) := by
  refine hframe.obeys_bind hstanding fun _ => ?_
  exact hframe.obeys_bind hframe.obeys_get fun _ => hframe.obeys_pure _

/-- A statement is recorded in the history, and the editor hears of it. -/
theorem obeys_record {statement : String}
    (hnote : ∀ l : Loop ε, holds l []
      { l with
        history := l.history.append statement
        executor := x.noteHistory (l.history.append statement).entries l.executor })
    (hrecall : ∀ entry, Obeys between holds (console (.recall entry))) :
    Obeys between holds (record x statement) := by
  refine hframe.obeys_bind (obeys_modify hnote) fun _ => ?_
  cases History.entryOf? statement with
  | none => exact hframe.obeys_pure ()
  | some entry => exact hrecall entry

/-- Saving the history makes a directory and writes a file, and a failure costs a warning. -/
theorem obeys_trySaveHistory (hmake : ∀ directory, Obeys between holds (files (.makeDirectory directory)))
    (hwrite : ∀ path text, Obeys between holds (files (.write path text)))
    (hwarn : ∀ text, Obeys between holds (warn .loop text : Program (Loop ε) Unit)) :
    Obeys between holds (trySaveHistory : Program (Loop ε) Unit) := by
  have hmakeOne (directory : String) : Obeys between holds
      ((Attempt.ofProgram (.files (.makeDirectory directory))).mapError Failure.io :
        Attempt (Loop ε) Failure Unit).run := Attempt.obeys_mapError _ (hmake directory)
  have hwriteOne (path text : String) : Obeys between holds
      ((Attempt.ofProgram (.files (.write path text))).mapError Failure.io :
        Attempt (Loop ε) Failure Unit).run := Attempt.obeys_mapError _ (hwrite path text)
  have hsave (h : History) : Obeys between holds (h.save : Attempt (Loop ε) Failure Unit).run := by
    unfold History.save
    split
    · exact hframe.attempt_pure ()
    · dsimp only
      split
      · split
        · exact hframe.attempt_bind (hmakeOne _) fun _ => hwriteOne _ _
        · exact hwriteOne _ _
      · exact hwriteOne _ _
  refine hframe.obeys_bind ?_ fun result => ?_
  · exact hframe.attempt_bind hframe.attempt_get fun l => hsave l.history
  · cases result with
    | ok _ => exact hframe.obeys_pure ()
    | error e => exact hwarn _

end Frames

end QueryShell.Loop
