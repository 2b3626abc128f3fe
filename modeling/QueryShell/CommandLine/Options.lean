import QueryShell.CommandLine.Reading

/-
The options of the command line, and the settings of the run that follow from them.
-/
namespace QueryShell.CommandLine

/-- The options of a run. -/
structure Options where
  endpoint : Endpoint := {}
  /-- Statements are read from here instead of standard input. -/
  file? : Option String := none
  failFast : Bool := false
  failAtEnd : Bool := false
  format : Format := .auto
  /-- Parameter assignments, in order. -/
  params : List String := []
  logLevel? : Option LogLevel := none
  verbose : Bool := false
  nonInteractive : Bool := false
  historyFile? : Option String := none
  driverVersion : Bool := false
  /-- The single statement to run. -/
  query? : Option String := none
deriving DecidableEq, Repr

namespace Options

/-- The options that were read. -/
def ofReading (r : Reading) : Options where
  endpoint :=
    { address := (r.value? .address).getD defaultAddress
      username := (r.value? .username).getD ""
      password := (r.value? .password).getD ""
      database := (r.value? .database).getD "" }
  file? := r.value? .file
  failFast := r.has .failFast
  failAtEnd := r.has .failAtEnd
  format := ((r.value? .format).bind Format.ofExactName?).getD .auto
  params := r.values .param
  logLevel? := (r.value? .logLevel).bind LogLevel.ofName?
  verbose := r.has .verbose
  nonInteractive := r.has .nonInteractive
  historyFile? := r.value? .historyFile
  driverVersion := r.has .driverVersion
  query? := r.value? .query

/-- Reads a command line; `lookup` finds variables of the environment. -/
def parse (lookup : String → Option String) (arguments : List String) : Except UsageError Options :=
  (Reading.ofArguments lookup arguments).map ofReading

/-- How much is logged. -/
def level (o : Options) : LogLevel :=
  if o.verbose then .debug else o.logLevel?.getD .warn

/-- The loop reads from a terminal. -/
def isInteractive (o : Options) (terminal : Bool) : Bool :=
  terminal && !o.nonInteractive && o.file?.isNone && o.query?.isNone

/-- What a failed statement does to the run. -/
def policy (o : Options) (interactive : Bool) : ErrorPolicy :=
  if o.failAtEnd then .failAtEnd
  else if o.failFast || !interactive then .failFast
  else .carryOn

/-- The settings of the run; `home?` and `profile?` are where the user's files may be. -/
def settings (o : Options) (interactive : Bool) (home? profile? : Option String) : Settings where
  interactive := interactive
  policy := o.policy interactive
  format := o.format
  historyFile? := o.historyFile?.or (defaultHistoryFile? home? profile?)

end Options

end QueryShell.CommandLine
