import QueryShell.Json.Printer
import QueryShell.Json.Reader
import QueryShell.Text.Blank

/-
What is sent to a server and what comes back: queries with their named parameters, bookmarks that
carry causality from one session to the next, and the outcome of one statement.
-/
namespace QueryShell

/-! ## Parameters -/

/-- Named query parameters, sorted by name. -/
abbrev Parameters := List (String × Json)

namespace Parameters

/-- Sets a parameter, in place of an earlier value. -/
def set (parameters : Parameters) (name : String) (value : Json) : Parameters :=
  Json.insert name value parameters

/-- One command line per parameter that would set it again. -/
def describe (parameters : Parameters) : List String :=
  parameters.map fun (name, value) => s!":param {name} => {value.text}"

/-- The value of an expression that is a JSON literal. Any other has to be evaluated by the
server. -/
def literal? (expression : String) : Option Json :=
  Json.parse? (Text.trim expression)

end Parameters

/-! ## Queries -/

/-- A statement with its parameters. -/
structure Query where
  text : String
  parameters : Parameters := []
deriving Repr, Inhabited

/-- Names the transactions that a later session has to see. -/
abbrev Bookmark := List String

/-- How a session is opened. No database means the server's default. -/
structure SessionConfig where
  database : Option String := none
  bookmark : Option Bookmark := none
deriving DecidableEq, Repr

/-! ## Outcomes -/

/-- The result of one executed statement: named columns, rows, the server that ran it and the
database it ran against. -/
structure Outcome where
  keys : List String := []
  rows : List (List Json) := []
  version : Option String := none
  database : Option String := none
deriving Repr, Inhabited

end QueryShell
