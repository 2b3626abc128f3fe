import QueryShell.Printer
import QueryShell.Proofs.Program.Runs

/-
Printing, whoever prints. All that a printer does is to write to a sink and, should that fail, to warn;
so whatever holds of these two calls holds of all printing, with anything that comes in between.
-/
namespace QueryShell.Frame

open Program

variable {σ : Type} {between holds : Interference σ} (hframe : Frame holds)
  (hwrite : ∀ sink text, Obeys between holds (console (.print sink text)))
  (hwarn : ∀ text, Obeys between holds (warn .printer text : Program σ Unit))

include hframe hwrite hwarn

theorem obeys_writeLine (sink : Sink) (text : String) :
    Obeys between holds (Printer.writeLine sink text) := by
  unfold Printer.writeLine
  refine hframe.obeys_bind (hwrite _ _) fun reply => ?_
  cases reply with
  | ok _ => exact hframe.obeys_pure ()
  | error reason => exact hwarn _

theorem obeys_printIfVerbose (p : Printer) (text : String) :
    Obeys between holds (p.printIfVerbose text) := by
  unfold Printer.printIfVerbose
  split
  · exact hframe.obeys_writeLine hwrite hwarn _ _
  · exact hframe.obeys_pure ()

theorem obeys_printOutcome (p : Printer) (o : Outcome) : Obeys between holds (p.printOutcome o) := by
  unfold Printer.printOutcome
  dsimp only
  split
  · exact hframe.obeys_pure ()
  · exact hframe.obeys_writeLine hwrite hwarn _ _

end QueryShell.Frame
