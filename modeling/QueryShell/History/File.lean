import QueryShell.History.Basic
import QueryShell.Program.Basic
import QueryShell.Text.Cut
import QueryShell.Text.Utf8

/-
The file behind a history. Opening reads the entries stored there; saving writes all of them, after
making the directories above the file.
-/
namespace QueryShell

/-! ## Paths -/

/-- The steps of a path: empty steps and steps to the same directory do not count, except that a
path may start at the current directory. -/
def pathSteps (path : List Char) : List (List Char) :=
  match Text.cutAt '/' path with
  | ['.'] :: rest => ['.'] :: rest.filter fun step => !(step.isEmpty || step == ['.'])
  | steps => steps.filter fun step => !(step.isEmpty || step == ['.'])

/-- The directory above a path: the empty path for a single step, and none for the root or the
empty path itself. -/
def directoryOf? (path : String) : Option String :=
  match pathSteps path.toList with
  | [] => none
  | steps =>
    let start := if path.startsWith "/" then "/" else ""
    some (start ++ String.ofList (['/'].intercalate steps.dropLast))

namespace History

variable {σ : Type}

/-- The history kept at a path, with the entries already stored there. -/
def load (path : String) : Attempt σ Failure History := do
  match ← Attempt.lift (.files (.read path)) with
  | .nothing => return { path? := some path }
  | .unreadable reason => throw (.io reason)
  | .bytes bytes =>
    match Text.Utf8.text? bytes with
    | none => throw .notUtf8
    | some chars => return { entries := ofContents (String.ofList chars), path? := some path }

/-- Writes all entries to the file behind the history, if there is one. -/
def save (h : History) : Attempt σ Failure Unit := do
  match h.path? with
  | none => return
  | some path =>
    if let some directory := directoryOf? path then
      if !directory.isEmpty then
        (Attempt.ofProgram (.files (.makeDirectory directory))).mapError .io
    (Attempt.ofProgram (.files (.write path (contents h.entries)))).mapError .io

end History

end QueryShell
