import QueryShell.Statement.Accumulator

/-
The history of a run: its statements and commands in order, each without the blank space around it.
`contents` stores the entries as they were typed, one after the other, and `ofContents` reads them
back by cutting the text into statements again; a text that stops inside a statement keeps its tail
as an entry.
-/
namespace QueryShell

/-- The statements so far, and where they are kept. A history without a path is never saved. -/
structure History where
  entries : List String := []
  path? : Option String := none
deriving DecidableEq, Repr

namespace History

/-- The entry that a statement becomes; a blank one becomes none. -/
def entryOf? (statement : String) : Option String :=
  let entry := Text.trim statement
  if entry.isEmpty then none else some entry

/-- Adds a statement at the end. -/
def append (h : History) (statement : String) : History :=
  { h with entries := h.entries ++ (entryOf? statement).toList }

/-- The text that stores entries: each followed by a line feed. -/
def contents (entries : List String) : String :=
  String.join (entries.map (· ++ "\n"))

/-- The entries that a text stores. -/
def ofContents (text : String) : List String :=
  let (rest, statements) := Statement.Accumulator.empty.feed text
  let tail := if rest.hasPendingText then [rest.buffer] else []
  (statements ++ tail).map Text.trim

end History

end QueryShell
