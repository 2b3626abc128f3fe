import QueryShell.Settings

/-
Fixed texts of the shell.
-/
namespace QueryShell.Shell

/-- Printed when a command ends the shell. -/
def exitMessage : String := "Exiting. Bye bye."

/-- Printed when the input ends. -/
def farewell : String := "Bye!"

/-- How to go on from here. -/
def usageHint : String :=
  "Type :help for a list of available commands or :exit to exit the shell.\n" ++
  "Note that statements must end with a semicolon."

/-- Printed when an interrupt finds no statement under way. -/
def interruptNotice : String :=
  "Interrupted (Note that statements must end with a semicolon. Type :exit to exit the shell.)"

/-- Says what the shell is connected to, as far as it is known. -/
def welcome (endpoint : Endpoint) (version : String) : String :=
  let server := if version.isEmpty then "" else s!" {version}"
  let user := if endpoint.username.isEmpty then "" else s!" as user {endpoint.username}"
  s!"Connected to server{server} at {endpoint.address}{user}."

end QueryShell.Shell
