import QueryShell.Outcome.Table
import QueryShell.Program.Basic

/-
What the user reads. Results and messages go to the one sink, errors to the other and in red if the
printer uses colours; a sink that fails costs a warning and nothing else.
-/
namespace QueryShell

/-! ## Colour -/

/-- Ends all colours. -/
def plainSequence : List Char := ['\x1b', '[', '0', 'm']

/-- Starts red text. -/
def redSequence : List Char := ['\x1b', '[', '3', '1', 'm']

/-- Starts red text anew after each end of colours inside a text. -/
def keepRed : List Char → List Char
  | '\x1b' :: '[' :: '0' :: 'm' :: rest => plainSequence ++ redSequence ++ keepRed rest
  | c :: rest => c :: keepRed rest
  | [] => []

/-- A text in red. -/
def red (text : String) : String :=
  String.ofList (redSequence ++ keepRed text.toList ++ plainSequence)

/-! ## Printing -/

/-- The rendering of an outcome. -/
def Outcome.render (o : Outcome) : Format → String
  | .verbose => o.table
  | .plain | .auto => o.plain

/-- How a shell prints. -/
structure Printer where
  format : Format
  colors : Bool := false
deriving DecidableEq, Repr

namespace Printer

variable {σ : Type}

/-- A printer for sinks that are, or are not, a terminal. -/
def make (format : Format) (terminal colors : Bool) : Printer :=
  { format := format.resolve terminal, colors }

/-- Results are tables, and there is more to read than results. -/
def isVerbose (p : Printer) : Bool :=
  p.format = .verbose

/-- Writes a line. -/
def writeLine (sink : Sink) (text : String) : Program σ Unit := do
  match ← Program.console (.print sink (text ++ "\n")) with
  | .ok () => pure ()
  | .error reason => Program.warn .printer s!"Failed to write output: {reason}"

/-- Prints a line for the user. -/
def printOut (_ : Printer) (text : String) : Program σ Unit :=
  writeLine .out text

/-- Prints a line that is not a result. -/
def printIfVerbose (p : Printer) (text : String) : Program σ Unit :=
  if p.isVerbose then p.printOut text else pure ()

/-- Prints the line of an error. -/
def printErrorMessage (p : Printer) (message : String) : Program σ Unit :=
  writeLine .err (if p.colors then red message else message)

/-- Prints why something failed. -/
def printError (p : Printer) (failure : Failure) : Program σ Unit :=
  p.printErrorMessage failure.message

/-- Prints an outcome, if there is anything to see. -/
def printOutcome (p : Printer) (o : Outcome) : Program σ Unit :=
  let text := o.render p.format
  if text.isEmpty then pure () else p.printOut text

end Printer

end QueryShell
