import QueryShell.Command.Basic

/-
The help texts: one entry per command name, the listing of all of them, and the text for one.
-/
namespace QueryShell.Command

/-- What help says about one command. -/
structure HelpEntry where
  name : String
  usage : String
  description : String
deriving DecidableEq, Repr

/-- Every command, by name. -/
def helpEntries : List HelpEntry :=
  [⟨":begin", "", "Open a transaction"⟩,
   ⟨":commit", "", "Commit the currently open transaction"⟩,
   ⟨":exit", "", "Exit the shell"⟩,
   ⟨":help", "[command]", "Show this help message or the help for a command"⟩,
   ⟨":history", "", "Print a list of the last commands executed"⟩,
   ⟨":param", "name => value", "Set the value of a query parameter"⟩,
   ⟨":params", "[clear]", "Print all query parameters, or clear them"⟩,
   ⟨":quit", "", "Exit the shell"⟩,
   ⟨":rollback", "", "Rollback the currently open transaction"⟩,
   ⟨":use", "[database]", "Set the active database, or the server default when none is given"⟩]

/-- The command with its arguments, as one types it. -/
def HelpEntry.signature (e : HelpEntry) : String :=
  if e.usage.isEmpty then e.name else s!"{e.name} {e.usage}"

/-- The entry of a command, named with or without its colon. -/
def findHelp? (topic : String) : Option HelpEntry :=
  let name := Text.trimChars topic.toList
  let name := if name.head? == some Statement.commandMark then name.tail else name
  helpEntries.find? fun e => e.name.toList.tail == name

/-- The text with blanks after it up to a width. -/
def padTo (width : Nat) (s : String) : String :=
  s ++ String.ofList (List.replicate (width - s.length) ' ')

/-- The list of all commands, descriptions aligned. -/
def helpListing : String :=
  let width := (helpEntries.map (·.signature.length)).foldl max 0
  let rows := helpEntries.map fun e => s!"  {padTo width e.signature}  {e.description}"
  "\n".intercalate (["Available commands:"] ++ rows ++
    ["", "For help on a specific command type:", "    :help command"])

/-- The text about one command. -/
def HelpEntry.text (e : HelpEntry) : String :=
  s!"usage: {e.signature}\n\n{e.description}"

end QueryShell.Command
