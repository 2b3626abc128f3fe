import QueryShell.Http.Host

/-
URLs as the web reads them: blank space around them and line breaks inside do not count, the scheme
and the host are in lower case, the scheme's own port is left out, dot segments are resolved, and
what may not stand for itself is percent-encoded.

`Url.commitUrl` is the address of a database's transactions below a base address.
-/
namespace QueryShell.Http

/-- A URL. The path is the list of its segments and is never empty. -/
structure Url where
  scheme : List Char
  host : List Char
  port? : Option Nat
  path : List (List Char)
  query? : Option (List Char)
  fragment? : Option (List Char)
deriving DecidableEq, Repr

namespace Url

/-! ## Text -/

/-- The port, if it is written. -/
def portChars (u : Url) : List Char :=
  match u.port? with
  | none => []
  | some p => ':' :: Json.digits p

/-- The text of a path. -/
def pathChars (path : List (List Char)) : List Char :=
  path.flatMap ('/' :: ·)

/-- A part that is written behind a mark, if it is there. -/
def markedChars (mark : Char) : Option (List Char) → List Char
  | none => []
  | some cs => mark :: cs

/-- The text of a URL without its fragment. -/
def resourceChars (u : Url) : List Char :=
  u.scheme ++ [':', '/', '/'] ++ u.host ++ u.portChars ++ pathChars u.path ++
    markedChars '?' u.query?

/-- The text of a URL. -/
def text (u : Url) : String :=
  String.ofList (u.resourceChars ++ markedChars '#' u.fragment?)

/-- The text of a URL without its fragment, which is what a server gets to see. -/
def resource (u : Url) : String :=
  String.ofList u.resourceChars

/-! ## Schemes -/

/-- The kinds of schemes, which differ in what comes behind the scheme. -/
inductive SchemeKind where
  /-- A host, always, with this port if no other is given. -/
  | web (port : Nat)
  | file
  | other
deriving DecidableEq, Repr

/-- The kind of a scheme. -/
def schemeKind (scheme : List Char) : SchemeKind :=
  match String.ofList scheme with
  | "http" | "ws" => .web 80
  | "https" | "wss" => .web 443
  | "ftp" => .web 21
  | "file" => .file
  | _ => .other

/-- May go on with a scheme. -/
def continuesScheme (c : Char) : Bool :=
  c.isAlphanum || c == '+' || c == '-' || c == '.'

/-- Cuts the scheme off, in lower case. -/
def cutScheme (cs : List Char) : Option (List Char × List Char) :=
  match cs.span continuesScheme with
  | (c :: scheme, ':' :: rest) =>
    if c.isAlpha then some ((c :: scheme).map Char.toLower, rest) else none
  | _ => none

/-! ## Hosts and ports -/

/-- Ends the part with host and port. -/
def endsAuthority (kind : SchemeKind) (c : Char) : Bool :=
  c == '/' || c == '?' || c == '#' || (c == '\\' && kind ≠ .other)

/-- Cuts the host off the part with host and port: a colon ends it unless it is inside brackets. -/
def cutHost (inside : Bool) : List Char → List Char × List Char
  | [] => ([], [])
  | c :: rest =>
    if c == ':' && !inside then ([], c :: rest)
    else
      let (host, rest) := cutHost (c == '[' || (inside && c != ']')) rest
      (c :: host, rest)

/-- The greatest port. -/
def greatestPort : Nat := 65535

/-- Reads a port behind its colon; there may be no digits. -/
def readPort (cs : List Char) : Except UrlError (Option Nat) :=
  if cs.isEmpty then .ok none
  else
    match Host.numberIn? 10 cs with
    | some n => if n ≤ greatestPort then .ok (some n) else .error .port
    | none => .error .port

/-- Drops what names a user in front of the host. -/
def dropUser (cs : List Char) : List Char :=
  if cs.contains '@' then (cs.reverse.takeWhile (· != '@')).reverse else cs

/-- Reads host and port. The scheme's own port is left out. -/
def authority (kind : SchemeKind) (cs : List Char) : Except UrlError (List Char × Option Nat) := do
  let (name, behind) := cutHost false (dropUser cs)
  let own? : Option Nat := match kind with
    | .web p => some p
    | _ => none
  if name.isEmpty && (kind ≠ .other || !behind.isEmpty) then throw .emptyHost
  let host ← if kind = .other then Host.parseOpaque name else Host.parse name
  let port? ← readPort (behind.drop 1)
  return (host, if port? = own? then none else port?)

/-! ## Paths -/

/-- What a segment means for the path. -/
inductive Segment where
  | here
  | above
  | name (text : List Char)
deriving DecidableEq, Repr

/-- Recognises dot segments; a dot may be percent-encoded. -/
def segment (text : List Char) : Segment :=
  match (String.ofList text).toLower with
  | "." | "%2e" => .here
  | ".." | ".%2e" | "%2e." | "%2e%2e" => .above
  | _ => .name text

/-- Puts segments behind a path; dot segments are resolved, and a last one leaves an empty segment
behind. -/
def walk (path : List (List Char)) : List (List Char) → List (List Char)
  | [] => path
  | text :: rest =>
    let ended := rest.isEmpty
    match segment text with
    | .here => walk (if ended then path ++ [[]] else path) rest
    | .above => walk (if ended then path.dropLast ++ [[]] else path.dropLast) rest
    | .name text => walk (path ++ [text]) rest

/-- Reads a path; a backslash is as good as a slash. -/
def readPath (cs : List Char) : List (List Char) :=
  let cs := cs.map fun c => if c = '\\' then '/' else c
  let cs := if cs.head? = some '/' then cs.drop 1 else cs
  walk [] (Text.cutAt '/' (Percent.encode Percent.inPath cs))

/-! ## Parsing -/

/-- Blank space around a URL. -/
def isMargin (c : Char) : Bool :=
  c.toNat ≤ 0x20

/-- Does not count inside a URL. -/
def isBreak (c : Char) : Bool :=
  c == '\t' || c == '\n' || c == '\r'

/-- Drops what does not count. -/
def clean (cs : List Char) : List Char :=
  let cs := (((cs.dropWhile isMargin).reverse).dropWhile isMargin).reverse
  cs.filter (!isBreak ·)

/-- Cuts the part behind a mark off. -/
def cutMark (mark : Char) (cs : List Char) : List Char × Option (List Char) :=
  match cs.span (· != mark) with
  | (front, []) => (front, none)
  | (front, _ :: rest) => (front, some rest)

/-- Reads a URL with host, path, query and fragment. -/
def ofAuthority (scheme cs : List Char) : Except UrlError Url := do
  let kind := schemeKind scheme
  let (place, rest) := cs.span (!endsAuthority kind ·)
  let (host, port?) ← authority kind place
  let (rest, fragment?) := cutMark '#' rest
  let (rest, query?) := cutMark '?' rest
  return {
    scheme, host, port?
    path := readPath rest
    query? := query?.map (Percent.encode Percent.inQuery)
    fragment? := fragment?.map (Percent.encode Percent.inFragment) }

/-- A URL of which only the scheme is of interest. -/
def schemeOnly (scheme : List Char) : Url :=
  { scheme, host := [], port? := none, path := [[]], query? := none, fragment? := none }

/-- A slash, or a backslash in its place. -/
def isSlash (c : Char) : Bool :=
  c == '/' || c == '\\'

/-- The letter of a drive, which is no host. -/
def isDrive : List Char → Bool
  | [c, mark] => c.isAlpha && (mark == ':' || mark == '|')
  | _ => false

/-- Reads the host of a file, which may be missing. -/
def checkFileHost (cs : List Char) : Except UrlError Unit := do
  let host := cs.takeWhile (!endsAuthority .file ·)
  if !host.isEmpty && !isDrive host then let _ ← Host.parse host

/-- Reads a URL. Without a host, and of files, only the scheme is kept. -/
def parse (address : String) : Except UrlError Url :=
  match cutScheme (clean address.toList) with
  | none => .error .relative
  | some (scheme, rest) =>
    match schemeKind scheme, rest with
    | .web _, rest => ofAuthority scheme (rest.dropWhile isSlash)
    | .other, '/' :: '/' :: rest => ofAuthority scheme rest
    | .file, a :: b :: rest => do
      if isSlash a && isSlash b then checkFileHost rest
      return schemeOnly scheme
    | _, _ => .ok (schemeOnly scheme)

/-- Host and port, where the scheme's own port is written too. -/
def hostAndPort (u : Url) : String :=
  match u.port?, schemeKind u.scheme with
  | none, .web port => String.ofList (u.host ++ ':' :: Json.digits port)
  | _, _ => String.ofList (u.host ++ u.portChars)

/-! ## Requests -/

/-- May stand in a host, but not in the host of a request. -/
def spoilsHost (c : Char) : Bool :=
  c == '"' || c == '\x60' || c == '\x7b' || c == '\x7d'

/-- The greatest length of a URL that requests are sent to. -/
def greatestLength : Nat := 65534

/-- Requests can be sent to the URL. -/
def isSendable (u : Url) : Bool :=
  !u.host.any spoilsHost && u.text.utf8ByteSize ≤ greatestLength

/-! ## Paths below a path -/

/-- Drops an empty last segment, unless it is the only one. -/
def dropEmptyEnd (path : List (List Char)) : List (List Char) :=
  if path.length > 1 ∧ path.getLast? = some [] then path.dropLast else path

/-- Starts a new last segment, or goes on with the only segment if that is empty. -/
def openSegment (path : List (List Char)) : List (List Char) :=
  if path = [[]] then [[]] else path ++ [[]]

/-- Puts a text behind a path as one segment. The texts `.` and `..` are left out; line breaks
and tabs in a text do not count, and what is left is resolved if it is a dot segment. -/
def pushSegment (path : List (List Char)) (text : List Char) : List (List Char) :=
  if text = ['.'] ∨ text = ['.', '.'] then path
  else
    let path := openSegment path
    match segment (Percent.encode Percent.inSegment (text.filter (!isBreak ·))) with
    | .here => path
    | .above => if path.length > 1 then path.dropLast.dropLast ++ [[]] else path
    | .name s => path.dropLast ++ [s]

/-- Where transactions on a database are sent. -/
def commitUrl (base : Url) (database : String) : Url :=
  let segments := ["db".toList, database.toList, "tx".toList, "commit".toList]
  { base with path := segments.foldl pushSegment (dropEmptyEnd base.path) }

end Url

end QueryShell.Http
