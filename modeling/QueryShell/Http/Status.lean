/-
Status codes of answers and what they are called.
-/
namespace QueryShell.Http

/-- The status code of an answer. -/
structure Status where
  code : Nat
deriving DecidableEq, Repr

namespace Status

/-- The status of a code, which has three digits. -/
def ofCode? (code : Nat) : Option Status :=
  if 100 ≤ code ∧ code ≤ 999 then some ⟨code⟩ else none

/-- The connection is used for something else from now on. -/
def switching : Status := ⟨101⟩

/-- Only announces an answer. -/
def isInterim (s : Status) : Bool :=
  s.code < 200 && s != switching

/-- Comes without a body. -/
def isBodiless (s : Status) : Bool :=
  s == switching || s.code = 204 || s.code = 304

/-- The server did what it was asked for. -/
def isSuccess (s : Status) : Bool :=
  200 ≤ s.code && s.code ≤ 299

/-- The credentials were rejected. -/
def unauthorized : Status := ⟨401⟩

/-- The standard phrases. -/
def phrases : List (Nat × String) :=
  [(100, "Continue"), (101, "Switching Protocols"), (102, "Processing"), (103, "Early Hints"),
   (200, "OK"), (201, "Created"), (202, "Accepted"), (203, "Non Authoritative Information"),
   (204, "No Content"), (205, "Reset Content"), (206, "Partial Content"), (207, "Multi-Status"),
   (208, "Already Reported"), (226, "IM Used"), (300, "Multiple Choices"),
   (301, "Moved Permanently"), (302, "Found"), (303, "See Other"), (304, "Not Modified"),
   (305, "Use Proxy"), (307, "Temporary Redirect"), (308, "Permanent Redirect"),
   (400, "Bad Request"), (401, "Unauthorized"), (402, "Payment Required"), (403, "Forbidden"),
   (404, "Not Found"), (405, "Method Not Allowed"), (406, "Not Acceptable"),
   (407, "Proxy Authentication Required"), (408, "Request Timeout"), (409, "Conflict"),
   (410, "Gone"), (411, "Length Required"), (412, "Precondition Failed"),
   (413, "Payload Too Large"), (414, "URI Too Long"), (415, "Unsupported Media Type"),
   (416, "Range Not Satisfiable"), (417, "Expectation Failed"), (418, "I'm a teapot"),
   (421, "Misdirected Request"), (422, "Unprocessable Entity"), (423, "Locked"),
   (424, "Failed Dependency"), (425, "Too Early"), (426, "Upgrade Required"),
   (428, "Precondition Required"), (429, "Too Many Requests"),
   (431, "Request Header Fields Too Large"), (451, "Unavailable For Legal Reasons"),
   (500, "Internal Server Error"), (501, "Not Implemented"), (502, "Bad Gateway"),
   (503, "Service Unavailable"), (504, "Gateway Timeout"), (505, "HTTP Version Not Supported"),
   (506, "Variant Also Negotiates"), (507, "Insufficient Storage"), (508, "Loop Detected"),
   (510, "Not Extended"), (511, "Network Authentication Required")]

/-- The code and what it is called. -/
def text (s : Status) : String :=
  let phrase := (phrases.lookup s.code).getD "<unknown status code>"
  s!"{s.code} {phrase}"

end Status

end QueryShell.Http
