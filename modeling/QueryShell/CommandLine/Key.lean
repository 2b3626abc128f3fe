import QueryShell.Settings

/-
What can stand on the command line, and what is wrong with a command line.
-/
namespace QueryShell.CommandLine

/-- An option, or the query that may stand without one. -/
inductive Key where
  | address
  | username
  | password
  | database
  | file
  | failFast
  | failAtEnd
  | format
  | param
  | logLevel
  | verbose
  | nonInteractive
  | historyFile
  | driverVersion
  | help
  | version
  | query
deriving DecidableEq, Repr

/-- How often an option may be given, and with what. -/
inductive Kind where
  /-- Once, with a value. -/
  | value
  /-- Any number of times, each with a value. -/
  | values
  /-- Once, without a value. -/
  | flag
  /-- Ends the reading of the command line. -/
  | ending
deriving DecidableEq, Repr

namespace Key

/-- The options. -/
def options : List Key :=
  [.address, .username, .password, .database, .file, .failFast, .failAtEnd, .format, .param,
   .logLevel, .verbose, .nonInteractive, .historyFile, .driverVersion, .help, .version]

/-- The long name, without its hyphens. -/
def long : Key → String
  | .address => "address"
  | .username => "username"
  | .password => "password"
  | .database => "database"
  | .file => "file"
  | .failFast => "fail-fast"
  | .failAtEnd => "fail-at-end"
  | .format => "format"
  | .param => "param"
  | .logLevel => "log-level"
  | .verbose => "verbose"
  | .nonInteractive => "non-interactive"
  | .historyFile => "history-file"
  | .driverVersion => "driver-version"
  | .help => "help"
  | .version => "version"
  | .query => "query"

/-- The short name, without its hyphen. -/
def short? : Key → Option Char
  | .address => some 'a'
  | .username => some 'u'
  | .password => some 'p'
  | .database => some 'd'
  | .file => some 'f'
  | .param => some 'P'
  | .logLevel => some 'l'
  | .verbose => some 'v'
  | .help => some 'h'
  | .version => some 'V'
  | _ => none

/-- The kind of an option. -/
def kind : Key → Kind
  | .failFast | .failAtEnd | .verbose | .nonInteractive | .driverVersion => .flag
  | .param => .values
  | .help | .version => .ending
  | _ => .value

/-- The option is followed by a value. -/
def takesValue (k : Key) : Bool :=
  k.kind = .value || k.kind = .values

/-- The option of a long name. -/
def ofLong? (name : String) : Option Key :=
  options.find? (·.long = name)

/-- The option of a short name. -/
def ofShort? (c : Char) : Option Key :=
  options.find? (·.short? = some c)

/-- The variable of the environment that stands in for an option. -/
def environmentName? : Key → Option String
  | .address => some "GRAPHSHELL_ADDRESS"
  | .username => some "GRAPHSHELL_USERNAME"
  | .password => some "GRAPHSHELL_PASSWORD"
  | .database => some "GRAPHSHELL_DATABASE"
  | _ => none

end Key

/-! ## Values -/

/-- How much is logged. -/
inductive LogLevel where
  | error
  | warn
  | info
  | debug
  | trace
  | off
deriving DecidableEq, Repr

namespace LogLevel

/-- The name of a level. -/
def name : LogLevel → String
  | .error => "error"
  | .warn => "warn"
  | .info => "info"
  | .debug => "debug"
  | .trace => "trace"
  | .off => "off"

/-- The level of a name. -/
def ofName? (name : String) : Option LogLevel :=
  [error, warn, info, debug, trace, off].find? (·.name = name)

theorem ofName?_name (l : LogLevel) : ofName? l.name = some l := by
  cases l <;> decide +kernel

/-- Warnings are logged. -/
def showsWarnings (l : LogLevel) : Bool :=
  l ≠ .error && l ≠ .off

end LogLevel

/-- A value is one that an option can have: paths are not empty, and levels and formats have one of
their names. -/
def Key.accepts (k : Key) (value : String) : Bool :=
  match k with
  | .file | .historyFile => !value.isEmpty
  | .logLevel => (LogLevel.ofName? value).isSome
  | .format => (Format.ofExactName? value).isSome
  | _ => true

/-! ## Errors -/

/-- Why there are no options to start with. -/
inductive UsageError where
  | unknownArgument (argument : String)
  | missingValue (key : Key)
  | invalidValue (key : Key) (value : String)
  /-- A value was attached to an option that takes none. -/
  | surplusValue (key : Key)
  | repeated (key : Key)
  | conflict (key other : Key)
  /-- Help was asked for. -/
  | help
  /-- The version was asked for. -/
  | version
deriving DecidableEq, Repr

namespace UsageError

/-- The exit code that follows. -/
def exitCode : UsageError → Nat
  | .help | .version => 0
  | _ => 2

/-- The complaint, or what was asked for. -/
def message : UsageError → String
  | .unknownArgument argument => s!"error: unexpected argument '{argument}' found"
  | .missingValue key => s!"error: a value is required for '--{key.long}'"
  | .invalidValue key value => s!"error: invalid value '{value}' for '--{key.long}'"
  | .surplusValue key => s!"error: unexpected value for '--{key.long}'"
  | .repeated key => s!"error: the argument '--{key.long}' cannot be used multiple times"
  | .conflict key other =>
    s!"error: the argument '--{key.long}' cannot be used with '--{other.long}'"
  | .help =>
    let lines := Key.options.map fun key =>
      let short := (key.short?.map fun c => s!"-{c}, ").getD ""
      s!"  {short}--{key.long}"
    "\n".intercalate ("Usage: graphshell [OPTIONS] [QUERY]" :: "" :: "Options:" :: lines)
  | .version => "graphshell 0.0.1"

end UsageError

end QueryShell.CommandLine
