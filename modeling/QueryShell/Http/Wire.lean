import QueryShell.Http.Exchange

/-
Requests and answers as the bytes that go over a connection. Every request asks for the connection
to be closed, so an answer is all that comes back: a head of lines up to an empty one, and a body
whose length the head gives, which comes in chunks of given lengths, or which is all that is left.
-/
namespace QueryShell.Http.Wire

/-! ## Requests -/

/-- The end of a line. -/
def lineEnd : String := "\r\n"

/-- What stands behind the host: path and query. -/
def target (u : Url) : String :=
  String.ofList (Url.pathChars u.path ++ Url.markedChars '?' u.query?)

/-- The bytes of a request. -/
def ofRequest (r : Request) : List UInt8 :=
  let body := Text.Utf8.bytes r.body
  let host := String.ofList (r.url.host ++ r.url.portChars)
  let fields := [("host", host), ("connection", "close")] ++ r.headers ++
    if r.method = .post then [("content-length", toString body.length)] else []
  let head := s!"{r.method.name} {target r.url} HTTP/1.1" ::
    fields.map fun (name, value) => s!"{name}: {value}"
  Text.Utf8.bytes (String.join ((head ++ [""]).map (· ++ lineEnd))) ++ body

/-! ## Answers -/

/-- The head of an answer. -/
structure Head where
  status : Status
  /-- The header fields, names in lower case. -/
  fields : List (String × String)
deriving Repr

/-- How the end of a body is known. -/
inductive Framing where
  | length (bytes : Nat)
  | chunks
  | rest
deriving DecidableEq, Repr

/-- Cuts off a line and its end. -/
def cutLine : List UInt8 → List UInt8 × List UInt8
  | [] => ([], [])
  | 13 :: 10 :: rest => ([], rest)
  | 10 :: rest => ([], rest)
  | b :: rest => let (line, rest) := cutLine rest; (b :: line, rest)

/-- The text of a line; what is not UTF-8 is replaced. -/
def lineText (line : List UInt8) : String :=
  String.ofList ((Text.Utf8.decode line).map (·.getD '\ufffd'))

/-- Cuts off lines up to an empty one. -/
def cutLines : Nat → List UInt8 → Option (List String × List UInt8)
  | 0, _ => none
  | bound + 1, bytes =>
    if bytes.isEmpty then none
    else
      match cutLine bytes with
      | ([], rest) => some ([], rest)
      | (line, rest) => (cutLines bound rest).map fun (lines, rest) => (lineText line :: lines, rest)

/-- Reads a header field. -/
def field? (line : String) : Option (String × String) :=
  match line.toList.span (· != ':') with
  | (_, []) => none
  | (name, _ :: value) =>
    some ((String.ofList name).toLower, Text.trim (String.ofList value))

/-- Reads a head. -/
def head? (lines : List String) : Option Head :=
  match lines with
  | [] => none
  | first :: fields =>
    match Text.cutAt ' ' first.toList with
    | _ :: code :: _ =>
      let status? := if code.length = 3 then (Host.numberIn? 10 code).bind Status.ofCode? else none
      status?.map fun status => { status, fields := fields.filterMap field? }
    | _ => none

/-- How the end of the body is known; some answers never have one. -/
def Head.framing (h : Head) : Framing :=
  if h.status.isBodiless then .length 0
  else if h.fields.lookup "transfer-encoding" = some "chunked" then .chunks
  else
    match (h.fields.lookup "content-length").bind (Host.numberIn? 10 ·.toList) with
    | some n => .length n
    | none => .rest

/-- Reads a body in chunks; `none` if it is cut short. -/
def chunks? : Nat → List UInt8 → Option (List UInt8)
  | 0, _ => none
  | bound + 1, bytes =>
    let (line, rest) := cutLine bytes
    let digits := (lineText line).toList.takeWhile (Percent.hexValue? · |>.isSome)
    match digits, Host.numberIn? 16 digits with
    | [], _ | _, none => none
    | _, some 0 => some []
    | _, some n =>
      if rest.length < n then none
      else (chunks? bound (cutLine (rest.drop n)).2).map (rest.take n ++ ·)

/-- Reads a body; `none` if it is cut short. -/
def body? (framing : Framing) (bytes : List UInt8) : Option (List UInt8) :=
  match framing with
  | .length n => if bytes.length < n then none else some (bytes.take n)
  | .chunks => chunks? (bytes.length + 1) bytes
  | .rest => some bytes

/-- Reads an answer behind those that only announce it. -/
def readAnswer : Nat → List UInt8 → Answer
  | 0, _ => .unreachable
  | bound + 1, bytes =>
    match cutLines (bytes.length + 1) bytes with
    | none => .unreachable
    | some (lines, rest) =>
      match head? lines with
      | none => .unreachable
      | some head =>
        if head.status.isInterim then readAnswer bound rest
        else .response head.status (body? head.framing rest)

/-- Reads all that came back. -/
def toAnswer (bytes : List UInt8) : Answer :=
  readAnswer (bytes.length + 1) bytes

end QueryShell.Http.Wire
