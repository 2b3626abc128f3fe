import QueryShell.CommandLine.Key

/-
Reading a command line, one argument after the other. An option that still waits for its value, or
has just got it, is settled by the next option or query; what is wrong with its value comes to light
only then, so that an unknown option behind it is reported first.
-/
namespace QueryShell.CommandLine

/-- How far a command line has been read. -/
structure Reading where
  /-- What was given, in order; a flag has the empty value. -/
  given : List (Key × String) := []
  /-- What is not settled, with its value if that is there. -/
  pending? : Option (Key × Option String) := none
  /-- The next argument may be the value of what is pending. -/
  awaiting : Bool := false
  /-- Nothing is an option any more. -/
  trailing : Bool := false
  /-- The query is there. -/
  hasQuery : Bool := false
deriving Repr

namespace Reading

/-- It was given. -/
def has (r : Reading) (k : Key) : Bool :=
  r.given.any (·.1 = k)

/-- Puts in what was given. -/
def put (r : Reading) (k : Key) (value : String) : Reading :=
  { r with given := r.given ++ [(k, value)], pending? := none, awaiting := false }

/-- Takes in an option or query with its value. -/
def add (r : Reading) (k : Key) (value? : Option String) : Except UsageError Reading :=
  match k.kind, value? with
  | .ending, _ => .error (if k = .help then .help else .version)
  | .flag, _ => if r.has k then .error (.repeated k) else .ok (r.put k "")
  | _, none => .error (.missingValue k)
  | kind, some value =>
    if kind = .value && r.has k then .error (.repeated k)
    else if k.accepts value then .ok (r.put k value)
    else .error (.invalidValue k value)

/-- Settles what is pending. -/
def settle (r : Reading) : Except UsageError Reading :=
  match r.pending? with
  | none => .ok { r with awaiting := false }
  | some (k, value?) => r.add k value?

/-- Settles what is pending and takes in an option. -/
def accept (r : Reading) (k : Key) (value? : Option String) : Except UsageError Reading := do
  (← r.settle).add k value?

/-- Settles what is pending and waits for the value of an option. -/
def await (r : Reading) (k : Key) : Except UsageError Reading := do
  return { ← r.settle with pending? := some (k, none), awaiting := true }

/-- A long option, behind its hyphens. -/
def takeLong (r : Reading) (text : List Char) : Except UsageError Reading :=
  let (name, rest) := text.span (· != '=')
  let value? := match rest with
    | [] => none
    | _ :: value => some (String.ofList value)
  match Key.ofLong? (String.ofList name) with
  | none => .error (.unknownArgument ("--" ++ String.ofList name))
  | some k =>
    if k.takesValue then
      if value?.isSome then r.accept k value? else r.await k
    else if value?.isSome then .error (.surplusValue k)
    else r.accept k none

/-- A cluster of short options, behind its hyphen. The rest of a cluster is the value of the first
option that takes one; an equality sign in front of the value does not count. -/
def takeShort (r : Reading) : List Char → Except UsageError Reading
  | [] => .ok r
  | c :: rest =>
    match Key.ofShort? c with
    | none => .error (.unknownArgument (String.ofList ['-', c]))
    | some k =>
      if k.takesValue then
        match rest with
        | [] => r.await k
        | '=' :: value => r.accept k (some (String.ofList value))
        | value => r.accept k (some (String.ofList value))
      else do
        let r ← r.accept k none
        r.takeShort rest

/-- An argument that is no option. -/
def takePlain (r : Reading) (text : String) : Except UsageError Reading := do
  if r.awaiting && !r.trailing then
    return { r with pending? := r.pending?.map fun (k, _) => (k, some text), awaiting := false }
  else if r.hasQuery then throw (.unknownArgument text)
  else
    return { ← r.settle with pending? := some (.query, some text), awaiting := false, hasQuery := true }

/-- One argument. -/
def take (r : Reading) (text : String) : Except UsageError Reading :=
  if r.trailing then r.takePlain text
  else
    match text.toList with
    | ['-', '-'] => .ok { r with trailing := true }
    | '-' :: '-' :: rest => r.takeLong rest
    | '-' :: c :: rest => r.takeShort (c :: rest)
    | _ => r.takePlain text

/-- Lets a variable of the environment stand in for an option that was not given. -/
def substitute (lookup : String → Option String) (r : Reading) (k : Key) : Reading :=
  match k.environmentName?.bind lookup with
  | some value => if r.has k then r else r.put k value
  | none => r

/-- Reads a whole command line. -/
def ofArguments (lookup : String → Option String) (arguments : List String) :
    Except UsageError Reading := do
  let r ← (← arguments.foldlM take {}).settle
  let r := Key.options.foldl (substitute lookup) r
  if r.has .failFast && r.has .failAtEnd then throw (.conflict .failFast .failAtEnd)
  else return r

/-- The value of an option. -/
def value? (r : Reading) (k : Key) : Option String :=
  r.given.lookup k

/-- The values of an option. -/
def values (r : Reading) (k : Key) : List String :=
  (r.given.filter (·.1 = k)).map (·.2)

end Reading

end QueryShell.CommandLine
