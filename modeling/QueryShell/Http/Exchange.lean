import QueryShell.Http.Base64
import QueryShell.Http.Body
import QueryShell.Http.Status
import QueryShell.Http.Url
import QueryShell.Settings

/-
Requests to a server and its answers. `Request.discovery` asks a server about itself and
`Request.commit` has it run queries in one transaction.
-/
namespace QueryShell.Http

/-! ## Requests -/

/-- The methods that are used. -/
inductive Method where
  | get
  | post
deriving DecidableEq, Repr

/-- The name of a method. -/
def Method.name : Method → String
  | .get => "GET"
  | .post => "POST"

/-- A request. -/
structure Request where
  method : Method
  url : Url
  /-- The header fields that this library sets, by name. -/
  headers : List (String × String)
  body : String := ""
deriving Repr

/-- What answers are asked to be. -/
def acceptedType : String := "application/json;charset=UTF-8"

/-- The type of a body. -/
def contentType : String := "application/json"

/-- Identifies a user by name and password. -/
def basicAuthorization (username password : String) : String :=
  let bytes := Text.Utf8.encode (username ++ ":" ++ password).toList
  "Basic " ++ String.ofList (Base64.encode bytes)

/-- The header fields of all requests. Without a user name nobody is identified. -/
def commonHeaders (username password : String) : List (String × String) :=
  let accept := [("accept", acceptedType)]
  if username.isEmpty then accept
  else accept ++ [("authorization", basicAuthorization username password)]

/-- Asks a server about itself. -/
def Request.discovery (base : Url) (username password : String) : Request :=
  { method := .get, url := base, headers := commonHeaders username password }

/-- A statement in the body of a request. -/
def statementJson (query : Query) : Json :=
  .object [("statement", .string query.text), ("parameters", .object query.parameters),
    ("resultDataContents", .array [.string "row"])]

/-- The body of a request to commit queries after the transactions of a bookmark. -/
def commitJson (queries : List Query) (bookmark? : Option Bookmark) : Json :=
  let bookmark := bookmark?.getD []
  let bookmarks :=
    if bookmark.isEmpty then [] else [("bookmarks", Json.array (bookmark.map .string))]
  .object (("statements", .array (queries.map statementJson)) :: bookmarks)

/-- Has a server run queries in one transaction. -/
def Request.commit (base : Url) (username password database : String) (queries : List Query)
    (bookmark? : Option Bookmark) : Request :=
  { method := .post, url := base.commitUrl database
    headers := commonHeaders username password ++ [("content-type", contentType)]
    body := (commitJson queries bookmark?).text }

/-! ## Answers -/

/-- What comes of a request. -/
inductive Answer where
  /-- Nobody answered. -/
  | unreachable
  /-- An answer, with its body unless that was cut short. -/
  | response (status : Status) (body? : Option (List UInt8))
deriving DecidableEq, Repr

/-- The answer of a code and a body. What is no status, or only announces an answer, is none. -/
def Answer.ofCode (code : Nat) (body? : Option (List UInt8)) : Answer :=
  match Status.ofCode? code with
  | none => .unreachable
  | some status =>
    if status.isInterim then .unreachable
    else .response status (if status.isBodiless then some [] else body?)

/-- Reads the body of an answer. -/
def Decoder.decodeBody? {α : Type} (d : Decoder α) (body? : Option (List UInt8)) : Option α :=
  body?.bind d.decode?

end QueryShell.Http
