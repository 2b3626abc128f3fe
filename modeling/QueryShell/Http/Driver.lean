import QueryShell.Driver.Basic
import QueryShell.Http.Exchange

/-
A driver over HTTP. Each query, and each list of queries that is written as a whole, is one request.
`State.begin` says what comes of a call: an immediate reply, or a request to be sent and how to
conclude from its answer.

A driver counts the interrupts of itself and its sessions; as long as the count is not the one that
was last cleared, no request is sent and no answer counts.
-/
namespace QueryShell.Http

/-! ## Interrupts -/

/-- How often a driver was interrupted, and up to which of them this is forgotten. The count starts
again from zero when the words run out. -/
structure Interrupts where
  requested : UInt64 := 0
  cleared : UInt64 := 0
deriving DecidableEq, Repr

namespace Interrupts

/-- One more interrupt. -/
def interrupt (i : Interrupts) : Interrupts :=
  { i with requested := i.requested + 1 }

/-- Forgets the interrupts up to a count that was read before. -/
def clearTo (i : Interrupts) (count : UInt64) : Interrupts :=
  { i with cleared := count }

/-- Forgets all interrupts so far. -/
def clear (i : Interrupts) : Interrupts :=
  i.clearTo i.requested

/-- There was an interrupt that is not forgotten. -/
def pending (i : Interrupts) : Bool :=
  i.requested != i.cleared

end Interrupts

/-! ## State -/

/-- A server that a driver was opened for. -/
structure Server where
  base : Url
  username : String
  password : String
  /-- The version that the server reported, behind its product's name. -/
  version? : Option String := none
  interrupts : Interrupts := {}
deriving Repr

/-- A session on one database. -/
structure Session where
  server : Nat
  database : String
  bookmark? : Option Bookmark
  isOpen : Bool := true
deriving Repr

/-- All drivers and sessions that were opened; references count them from zero. -/
structure State where
  servers : List Server := []
  sessions : List Session := []
deriving Repr

/-- The database of requests when none was asked for. -/
def defaultDatabase : String := "neo4j"

/-- The product that versions belong to. -/
def product : String := "Neo4j"

/-! ## Errors -/

/-- What can go wrong, apart from interrupts. -/
inductive Fault where
  | invalidAddress (address : String) (error : UrlError)
  | unsupportedScheme (scheme : String)
  /-- No request can be sent to this address. -/
  | unsendable (url : String)
  /-- Nobody answered at this address. -/
  | unreachable (url : String)
  | unauthorized
  | discoveryStatus (base : String) (status : Status)
  | unreadableDiscovery
  | commitStatus (status : Status)
  | unreadableAnswer
  | serverError (error : ServerError)
  | noResult
  | sessionClosed
  /-- The reference was never handed out. -/
  | unknownReference
deriving DecidableEq, Repr

/-- Codes after which a session has to be opened again. -/
def expiredCodes : List String :=
  ["Neo.ClientError.Cluster.NotALeader", "Neo.ClientError.General.ForbiddenOnReadOnlyDatabase"]

/-- The driver's error for an error of the server. -/
def ServerError.toError (e : ServerError) : Driver.Error :=
  if e.code = Driver.unauthorizedCode then .authentication e.message
  else if expiredCodes.contains e.code then .sessionExpired e.message
  else .server e.code e.message

/-- The driver's error for what went wrong. -/
def Fault.toError : Fault → Driver.Error
  | .invalidAddress address e => .protocol s!"Invalid address '{address}': {e.message}"
  | .unsupportedScheme scheme =>
    .protocol s!"Unsupported scheme '{scheme}', expected http or https"
  | .unsendable url => .unavailable s!"Unable to reach the server: builder error for url ({url})"
  | .unreachable url =>
    .unavailable s!"Unable to reach the server: error sending request for url ({url})"
  | .unauthorized =>
    .authentication "The client is unauthorized due to authentication failure."
  | .discoveryStatus base status =>
    .unavailable s!"Discovery request to {base} failed: HTTP {status.text}"
  | .unreadableDiscovery =>
    .protocol "Invalid discovery document: error decoding response body"
  | .commitStatus status => .unavailable s!"Server responded with HTTP {status.text}"
  | .unreadableAnswer => .protocol "Invalid response from server: error decoding response body"
  | .serverError e => e.toError
  | .noResult => .protocol "Server returned no result"
  | .sessionClosed => .sessionExpired "Session is closed"
  | .unknownReference => .protocol "Unknown driver or session"

/-! ## Meaning of answers -/

/-- The fault that a status alone stands for. -/
def statusFault? (status : Status) : Option Fault :=
  if status = .unauthorized then some .unauthorized
  else if status.isSuccess then none
  else some (.commitStatus status)

/-- What the answer to a discovery says. -/
def readDiscovery (base : Url) : Answer → Except Fault Discovery
  | .unreachable => .error (.unreachable base.text)
  | .response status body? =>
    if status = .unauthorized then .error .unauthorized
    else if !status.isSuccess then .error (.discoveryStatus base.text status)
    else
      match Discovery.decoder.decodeBody? body? with
      | some d => .ok d
      | none => .error .unreadableDiscovery

/-- What the answer to a commit says: the server's own errors count before its status, and the
status before an unreadable body. -/
def readCommit (url : Url) : Answer → Except Fault Committed
  | .unreachable => .error (.unreachable url.text)
  | .response status body? =>
    match Committed.decoder.decodeBody? body? with
    | none => .error ((statusFault? status).getD .unreadableAnswer)
    | some answer =>
      match answer.errors, statusFault? status with
      | e :: _, _ => .error (.serverError e)
      | [], some fault => .error fault
      | [], none => .ok answer

/-- The outcomes of the statements of a commit. -/
def Committed.outcomes (answer : Committed) (version? : Option String) (database : String) :
    List Outcome :=
  answer.results.map fun result =>
    { keys := result.columns, rows := result.rows, version := version?
      database := some database }

/-! ## Calls -/

/-- What comes of a call. -/
inductive Step (ρ : Type) where
  | replied (reply : ρ) (state : State)
  /-- A request is to be sent; the reply follows from its answer. -/
  | exchange (request : Request) (conclude : Answer → State → ρ × State)

namespace State

/-- Changes a server. -/
def onServer (st : State) (i : Nat) (f : Server → Server) : State :=
  { st with servers := st.servers.modify i f }

/-- Changes a session. -/
def onSession (st : State) (i : Nat) (f : Session → Session) : State :=
  { st with sessions := st.sessions.modify i f }

/-- An interrupt of a server is pending. -/
def isInterrupted (st : State) (i : Nat) : Bool :=
  match st.servers[i]? with
  | some server => server.interrupts.pending
  | none => false

/-- Opens a driver for an address. -/
def openDriver (st : State) (e : Endpoint) : Except Fault Driver.Ref × State :=
  match Url.parse e.address with
  | .error error => (.error (.invalidAddress e.address error), st)
  | .ok base =>
    match String.ofList base.scheme with
    | "http" | "https" =>
      let server := { base, username := e.username, password := e.password }
      (.ok ⟨st.servers.length⟩, { st with servers := st.servers ++ [server] })
    | scheme => (.error (.unsupportedScheme scheme), st)

/-- Opens a session. -/
def openSession (st : State) (driver : Driver.Ref) (config : SessionConfig) :
    Driver.SessionRef × State :=
  let session :=
    { server := driver.number, database := config.database.getD defaultDatabase
      bookmark? := config.bookmark }
  (⟨st.sessions.length⟩, { st with sessions := st.sessions ++ [session] })

/-- Sends a request unless an interrupt is pending or its address takes none. The answer counts unless
an interrupt is pending by then. -/
def sendUnlessInterrupted {α : Type} (st : State) (server : Nat) (request : Request)
    (conclude : Answer → State → Except Driver.Error α × State) : Step (Except Driver.Error α) :=
  if st.isInterrupted server then .replied (.error .interrupted) st
  else if !request.url.isSendable then
    .replied (.error (Fault.unsendable request.url.text).toError) st
  else .exchange request fun answer st =>
    if st.isInterrupted server then (.error .interrupted, st) else conclude answer st

/-- Asks a server about itself and keeps the version that it reports. -/
def verify (st : State) (i : Nat) : Step (Except Driver.Error Unit) :=
  match st.servers[i]? with
  | none => .replied (.error Fault.unknownReference.toError) st
  | some server =>
    let request := Request.discovery server.base server.username server.password
    st.sendUnlessInterrupted i request fun answer st =>
      match readDiscovery server.base answer with
      | .error fault => (.error fault.toError, st)
      | .ok discovery =>
        let version? := discovery.version?.map fun v => s!"{product}/{v}"
        (.ok (), st.onServer i fun server => { server with version? })

/-- Has the server of a session run queries in one transaction. The bookmarks that come back are the
session's bookmark from then on. -/
def commit (st : State) (i : Nat) (queries : List Query) :
    Step (Except Driver.Error (List Outcome)) :=
  match st.sessions[i]? with
  | none => .replied (.error Fault.unknownReference.toError) st
  | some session =>
    match st.servers[session.server]? with
    | none => .replied (.error Fault.unknownReference.toError) st
    | some server =>
      if !session.isOpen then .replied (.error Fault.sessionClosed.toError) st
      else
        let request := Request.commit server.base server.username server.password
          session.database queries session.bookmark?
        st.sendUnlessInterrupted session.server request fun answer st =>
          match readCommit request.url answer with
          | .error fault => (.error fault.toError, st)
          | .ok committed =>
            let version? := (st.servers[session.server]?).bind (·.version?)
            let st := if committed.bookmarks.isEmpty then st
              else st.onSession i fun session =>
                { session with bookmark? := some committed.bookmarks }
            (.ok (committed.outcomes version? session.database), st)

/-- The one outcome of a query. -/
def single : Except Driver.Error (List Outcome) → Except Driver.Error Outcome
  | .error e => .error e
  | .ok (outcome :: _) => .ok outcome
  | .ok [] => .error Fault.noResult.toError

end State

/-- Changes the reply of a step. -/
def Step.map {ρ ρ' : Type} (f : ρ → ρ') : Step ρ → Step ρ'
  | .replied reply st => .replied (f reply) st
  | .exchange request conclude =>
    .exchange request fun answer st => let (reply, st) := conclude answer st; (f reply, st)

/-- What comes of a call. -/
def State.begin : (c : Driver.Call) → State → Step c.Reply
  | .openDriver e, st => let (r, st) := st.openDriver e; .replied (r.mapError Fault.toError) st
  | .verify d, st => st.verify d.number
  | .openSession d config, st => let (r, st) := st.openSession d config; .replied (.ok r) st
  | .run s query, st => (st.commit s.number [query]).map State.single
  | .write _ [], st => .replied (.ok []) st
  | .write s (query :: rest), st => st.commit s.number (query :: rest)
  | .resetSession s, st =>
    -- each request is a transaction of its own, so that giving it up is all there is to reset
    match st.sessions[s.number]? with
    | none => .replied (.ok ()) st
    | some session =>
      .replied (.ok ()) (st.onServer session.server fun server =>
        { server with interrupts := server.interrupts.interrupt })
  | .closeSession s, st =>
    .replied (.ok ()) (st.onSession s.number fun session => { session with isOpen := false })
  | .closeDriver _, st => .replied (.ok ()) st
  | .interrupt d, st =>
    .replied () (st.onServer d.number fun server =>
      { server with interrupts := server.interrupts.interrupt })
  | .clearInterrupt d, st =>
    .replied () (st.onServer d.number fun server =>
      { server with interrupts := server.interrupts.clear })
  | .isOpen s, st => .replied (((st.sessions[s.number]?).map (·.isOpen)).getD false) st
  | .lastBookmark s, st => .replied ((st.sessions[s.number]?).bind (·.bookmark?)) st

end QueryShell.Http
