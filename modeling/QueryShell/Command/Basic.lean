import QueryShell.Text.Letter
import QueryShell.Text.Blank
import QueryShell.Statement.Accumulator

/-
Commands of the shell: lines that start with a colon. `Command.parse` reads one, `Command.line`
writes one, and `Command.Misuse` lists the ways in which a command line can be wrong.
-/
namespace QueryShell

/-- A command of the shell. -/
inductive Command where
  | exit
  | begin
  | commit
  | rollback
  /-- Switches to a database; the empty name means the server's default. -/
  | use (database : String)
  /-- Sets a query parameter. The name stands as it was written, backticks included. -/
  | setParam (name value : String)
  | listParams
  | clearParams
  | history
  | help (topic : Option String)
deriving DecidableEq, Repr

/-- What is wrong with a command line. -/
inductive Command.Misuse where
  | notACommand (line : String)
  | unknown (name : String)
  | takesNoArgument (name : String)
  | paramsArgument (argument : String)
  | malformedParam
deriving DecidableEq, Repr

/-- The complaint as the user reads it. -/
def Command.Misuse.message : Command.Misuse → String
  | .notACommand line => s!"Not a command: {line}"
  | .unknown name => s!"Could not find command {name}, use :help to see available commands"
  | .takesNoArgument name => s!"Incorrect number of arguments for {name}, it takes none"
  | .paramsArgument argument =>
    s!"Incorrect usage of :params, unexpected argument '{argument}'"
  | .malformedParam => "Incorrect usage of :param, expected :param name => value"

namespace Command

/-! ## Names -/

/-- The quote around names that are not identifiers. -/
def backtick : Char := '\x60'

/-- Takes off a pair of backticks around a name; a single backtick is a name of its own. -/
def unquoteChars : List Char → List Char
  | c :: rest =>
    if c == backtick && rest.getLast? == some backtick then rest.dropLast else c :: rest
  | [] => []

/-- The name without the backticks around it. -/
def unquote (name : String) : String :=
  String.ofList (unquoteChars name.toList)

/-- May start a parameter name. -/
def startsName (c : Char) : Bool :=
  c == '_' || Text.isLetter c

/-- May go on with a parameter name. -/
def continuesName (c : Char) : Bool :=
  startsName c || Text.isNumber c

/-- Cuts a parameter name off the front: an identifier, or a non-empty text between backticks. -/
def cutName : List Char → Option (List Char × List Char)
  | [] => none
  | c :: rest =>
    if c == backtick then
      match rest.span (· != backtick) with
      | ([], _) | (_, []) => none
      | (inner, close :: rest) => some (c :: inner ++ [close], rest)
    else if startsName c then
      let (more, rest) := rest.span continuesName
      some (c :: more, rest)
    else none

/-- Cuts off the sign between name and value, `=>` or the older `:`. -/
def cutSign : List Char → Option (List Char)
  | '=' :: '>' :: rest => some rest
  | ':' :: rest => some rest
  | _ => none

/-- Reads `name => value`. The value is one line of visible text. -/
def parseParam (arguments : List Char) : Except Misuse Command :=
  match cutName arguments with
  | none => .error .malformedParam
  | some (name, rest) =>
    match cutSign (rest.dropWhile Text.isBlank) with
    | none => .error .malformedParam
    | some rest =>
      let value := Text.trimChars rest
      if value.isEmpty || value.contains '\n' then .error .malformedParam
      else .ok (.setParam (String.ofList name) (String.ofList value))

/-! ## Lines -/

/-- The command `c`, unless there is an argument. -/
def withoutArgument (name arguments : String) (c : Command) : Except Misuse Command :=
  if arguments.isEmpty then .ok c else .error (.takesNoArgument name)

/-- The command that a name and its arguments stand for. -/
def ofParts (name arguments : String) : Except Misuse Command :=
  match name with
  | ":exit" | ":quit" => withoutArgument name arguments .exit
  | ":begin" => withoutArgument name arguments .begin
  | ":commit" => withoutArgument name arguments .commit
  | ":rollback" => withoutArgument name arguments .rollback
  | ":history" => withoutArgument name arguments .history
  | ":use" => .ok (.use (unquote arguments))
  | ":param" => if arguments.isEmpty then .ok .listParams else parseParam arguments.toList
  | ":params" =>
    if arguments.isEmpty then .ok .listParams
    else if arguments = "clear" then .ok .clearParams
    else .error (.paramsArgument arguments)
  | ":help" => .ok (.help (if arguments.isEmpty then none else some arguments))
  | _ => .error (.unknown name)

/-- Reads a command line: a name that starts with a colon, then its arguments. -/
def parse (line : String) : Except Misuse Command :=
  let chars := Text.trimChars line.toList
  let (name, rest) := Text.cutAtBlank chars
  if name.head? == some Statement.commandMark then
    ofParts (String.ofList name) (String.ofList (Text.trimChars (rest.getD [])))
  else .error (.notACommand (String.ofList chars))

/-- The line that stands for a command; database names go between backticks. -/
def line : Command → String
  | .exit => ":exit"
  | .begin => ":begin"
  | .commit => ":commit"
  | .rollback => ":rollback"
  | .use database => ":use " ++ (backtick.toString ++ database ++ backtick.toString)
  | .setParam name value => ":param " ++ name ++ " => " ++ value
  | .listParams => ":params"
  | .clearParams => ":params clear"
  | .history => ":history"
  | .help none => ":help"
  | .help (some topic) => ":help " ++ topic

end Command

end QueryShell
