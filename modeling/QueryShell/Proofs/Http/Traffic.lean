import QueryShell.Http.Environment
import QueryShell.Proofs.Program.Ensures

/-
The traffic of drivers over a web: which requests were sent, in their order, and what was received for
each. `recorded` is the environment of `Http.environment` with a list of all exchanges in its world;
by `recorded_exec` nothing else is different.

`State.begin` is known here by what it does to the sessions' bookmarks: only opening a session and
committing on one matter, and all other calls leave them as they are. How a commit begins is said once,
by `commit_step`.
-/
namespace QueryShell

/-! ## Environments with more in their world -/

namespace Environment

variable {σ ω ω' α : Type}

/-- An environment behaves like another one on a view of its world. -/
def Shows (env' : Environment ω') (view : ω' → ω) (env : Environment ω) : Prop :=
  ∀ call w, view (env' call w).world = (env call (view w)).world ∧
    (env' call w).interrupts = (env call (view w)).interrupts ∧
    ∀ w', Prod.map id view ((env' call w).finish w') = (env call (view w)).finish (view w')

end Environment

/-- What answers calls alike on a view of the world runs programs alike. -/
theorem Program.run_view {σ ω ω' α : Type} {view : ω' → ω}
    {answer' : (call : Call) → σ × ω' → call.Reply × (σ × ω')}
    {answer : (call : Call) → σ × ω → call.Reply × (σ × ω)}
    (hanswer : ∀ call sw, Prod.map id (Prod.map id view) (answer' call sw) =
      answer call (Prod.map id view sw)) (p : Program σ α) (sw : σ × ω') :
    Prod.map id (Prod.map id view) (p.run answer' sw) = p.run answer (Prod.map id view sw) := by
  induction p generalizing sw with
  | done a => rfl
  | get next ih => exact ih _ _
  | set s next ih => exact ih _
  | ask call next ih =>
    have hcall := hanswer call sw
    show Prod.map id (Prod.map id view) ((next (answer' call sw).1).run answer' (answer' call sw).2) =
      (next (answer call (Prod.map id view sw)).1).run answer (answer call (Prod.map id view sw)).2
    rw [ih, ← hcall]
    rfl

namespace Environment

variable {σ ω ω' α : Type} {view : ω' → ω} {env' : Environment ω'} {env : Environment ω}

theorem Shows.perform (h : env'.Shows view env) (onInterrupt : Program σ Unit) (depth : Nat)
    (call : Call) (sw : σ × ω') :
    Prod.map id (Prod.map id view) (env'.perform onInterrupt depth call sw) =
      env.perform onInterrupt depth call (Prod.map id view sw) := by
  -- what comes of a call, once the interrupts have left a state and a world
  have hfinish : ∀ (call : Call) (w : ω') (m : σ × ω'),
      Prod.map id (Prod.map id view)
        (((env' call w).finish m.2).1, m.1, ((env' call w).finish m.2).2) =
      (((env call (view w)).finish (view m.2)).1, m.1, ((env call (view w)).finish (view m.2)).2) := by
    intro call w m
    rw [← (h call w).2.2 m.2]
    rfl
  induction depth generalizing call sw with
  | zero =>
    refine (hfinish call sw.2 (sw.1, (env' call sw.2).world)).trans ?_
    rw [(h call sw.2).1]
    rfl
  | succ depth ih =>
    have hserve : ∀ n m, Prod.map id view
        (Nat.repeat (fun m => (onInterrupt.run (env'.perform onInterrupt depth) m).2) n m) =
        Nat.repeat (fun m => (onInterrupt.run (env.perform onInterrupt depth) m).2) n
          (Prod.map id view m) := by
      intro n m
      induction n with
      | zero => rfl
      | succ n ihn =>
        show Prod.map id view (onInterrupt.run (env'.perform onInterrupt depth) _).2 =
          (onInterrupt.run (env.perform onInterrupt depth) _).2
        rw [← ihn, ← Program.run_view ih]
        rfl
    obtain ⟨hworld, hinterrupts, -⟩ := h call sw.2
    have hstart : Prod.map id view (sw.1, (env' call sw.2).world) =
        (sw.1, (env call (view sw.2)).world) := by
      rw [← hworld]
      rfl
    have hserved := hserve (env' call sw.2).interrupts (sw.1, (env' call sw.2).world)
    rw [hstart] at hserved
    refine (hfinish call sw.2 (Nat.repeat _ _ (sw.1, (env' call sw.2).world))).trans ?_
    refine congrArg (fun m : σ × ω => (((env call (view sw.2)).finish m.2).1, m.1,
      ((env call (view sw.2)).finish m.2).2)) (hserved.trans ?_)
    rw [hinterrupts]
    rfl

/-- A program runs alike in both. -/
theorem Shows.exec (h : env'.Shows view env) (onInterrupt : Program σ Unit) (depth : Nat)
    (p : Program σ α) (sw : σ × ω') :
    Prod.map id (Prod.map id view) (env'.exec onInterrupt depth p sw) =
      env.exec onInterrupt depth p (Prod.map id view sw) :=
  Program.run_view (h.perform onInterrupt depth) p sw

end Environment

namespace Http

/-! ## Exchanges -/

/-- A request that was sent, and the answer, unless the request was given up before. -/
structure Exchange where
  request : Request
  answer? : Option Answer

/-- The bookmarks that came back, if the queries of the request were committed. -/
def Exchange.bookmark? (e : Exchange) : Option Bookmark :=
  match e.request.method, e.answer? with
  | .post, some (.response status body?) =>
    match status.isSuccess, Committed.decoder.decodeBody? body? with
    | true, some { errors := [], bookmarks := first :: rest, .. } => some (first :: rest)
    | _, _ => none
  | _, _ => none

/-- The bookmarks that came back last. -/
def latestBookmark? (log : List Exchange) : Option Bookmark :=
  (log.filterMap Exchange.bookmark?).getLast?

/-- A request that commits nothing brings no bookmarks. -/
theorem Exchange.bookmark?_of_get {e : Exchange} (h : e.request.method = .get) :
    e.bookmark? = none := by
  unfold Exchange.bookmark?
  rw [h]

theorem latestBookmark?_snoc (log : List Exchange) (e : Exchange) :
    latestBookmark? (log ++ [e]) = e.bookmark?.or (latestBookmark? log) := by
  unfold latestBookmark?
  rw [List.filterMap_append]
  cases h : e.bookmark? with
  | none => simp [h]
  | some bookmark => simp [h]

theorem Exchange.bookmark?_ne_nil {e : Exchange} {bookmark : Bookmark}
    (h : e.bookmark? = some bookmark) : bookmark ≠ [] := by
  unfold Exchange.bookmark? at h
  split at h
  · split at h
    · cases h
      exact List.cons_ne_nil _ _
    · cases h
  · cases h

theorem latestBookmark?_ne_nil {log : List Exchange} {bookmark : Bookmark}
    (h : latestBookmark? log = some bookmark) : bookmark ≠ [] := by
  obtain ⟨e, -, he⟩ := List.mem_filterMap.1 (List.mem_of_getLast? h)
  exact Exchange.bookmark?_ne_nil he

theorem statusFault?_eq_none {status : Status} : statusFault? status = none ↔ status.isSuccess := by
  unfold statusFault?
  split
  · rename_i h
    subst h
    simp [Status.isSuccess, Status.unauthorized]
  · split <;> simp_all

/-- The bookmarks that came back are those of the answer that counts. -/
theorem Exchange.bookmark?_eq {request : Request} (h : request.method = .post) (answer : Answer) :
    Exchange.bookmark? ⟨request, some answer⟩ =
      match readCommit request.url answer with
      | .error _ => none
      | .ok committed => if committed.bookmarks.isEmpty then none else some committed.bookmarks := by
  unfold Exchange.bookmark? readCommit
  rw [h]
  cases answer with
  | unreachable => rfl
  | response status body? =>
    dsimp only
    cases Committed.decoder.decodeBody? body? with
    | none => cases status.isSuccess <;> rfl
    | some committed =>
      obtain ⟨results, errors, bookmarks⟩ := committed
      cases errors with
      | cons e errors => cases status.isSuccess <;> rfl
      | nil =>
        cases hsuccess : status.isSuccess with
        | true =>
          rw [statusFault?_eq_none.2 hsuccess]
          cases bookmarks <;> rfl
        | false =>
          cases hfault : statusFault? status with
          | none => exact absurd (statusFault?_eq_none.1 hfault) (by simp [hsuccess])
          | some fault => rfl

/-! ## Recorded traffic -/

/-- The server that a call asks. -/
def State.asked? (st : State) : Driver.Call → Option Nat
  | .verify driver => some driver.number
  | .run session _ | .write session _ => (st.sessions[session.number]?).map (·.server)
  | _ => none

/-- What is recorded of a request when its answer arrives: with an interrupt pending, it is given up. -/
def State.exchanged (st : State) (c : Driver.Call) (request : Request) (answer : Answer) : Exchange :=
  ⟨request, if (st.asked? c).any st.isInterrupted then none else some answer⟩

variable {ω : Type}

/-- Answers a call to a driver and records the exchange. -/
def recordCall (web : Web ω) (c : Driver.Call) :
    State × List Exchange × ω → Started (State × List Exchange × ω) c.Reply
  | (st, log, w) =>
    match st.begin c with
    | .replied reply st => { world := (st, log, w), finish := fun world => (reply, world) }
    | .exchange request conclude =>
      let sent := web request w
      { world := (st, log, sent.world)
        interrupts := sent.interrupts
        finish := fun (st, log, w) =>
          let (answer, w) := sent.finish w
          let (reply, st') := conclude answer st
          (reply, (st', log ++ [st.exchanged c request answer], w)) }

theorem recordCall_replied (web : Web ω) {c : Driver.Call} {st st' : State} {reply : c.Reply}
    (h : st.begin c = .replied reply st') (log : List Exchange) (w : ω) :
    recordCall web c (st, log, w) =
      { world := (st', log, w), finish := fun world => (reply, world) } := by
  unfold recordCall
  dsimp only
  rw [h]

theorem recordCall_exchange (web : Web ω) {c : Driver.Call} {st : State} {request : Request}
    {conclude : Answer → State → c.Reply × State} (h : st.begin c = .exchange request conclude)
    (log : List Exchange) (w : ω) :
    recordCall web c (st, log, w) =
      { world := (st, log, (web request w).world)
        interrupts := (web request w).interrupts
        finish := fun (st, log, waited) =>
          let (answer, waited) := (web request w).finish waited
          let (reply, st') := conclude answer st
          (reply, (st', log ++ [st.exchanged c request answer], waited)) } := by
  unfold recordCall
  dsimp only
  rw [h]

/-- Answers all calls and records the exchanges. -/
def recorded (web : Web ω) (rest : Environment ω) : Environment (State × List Exchange × ω)
  | .driver c, world => recordCall web c world
  | call, (st, log, w) =>
    let started := rest call w
    { world := (st, log, started.world)
      interrupts := started.interrupts
      finish := fun (st, log, w) =>
        let (reply, w) := started.finish w
        (reply, (st, log, w)) }

/-- The world without the record. -/
def unrecorded (world : State × List Exchange × ω) : State × ω :=
  (world.1, world.2.2)

theorem recorded_shows (web : Web ω) (rest : Environment ω) :
    (recorded web rest).Shows unrecorded (environment web rest) := by
  rintro call ⟨st, log, w⟩
  cases call with
  | driver c =>
    show unrecorded (recordCall web c (st, log, w)).world = (answerCall web c (st, w)).world ∧
      (recordCall web c (st, log, w)).interrupts = (answerCall web c (st, w)).interrupts ∧
      ∀ world, Prod.map id unrecorded ((recordCall web c (st, log, w)).finish world) =
        (answerCall web c (st, w)).finish (unrecorded world)
    unfold recordCall answerCall
    dsimp only
    cases st.begin c with
    | replied reply st' => exact ⟨rfl, rfl, fun _ => rfl⟩
    | exchange request conclude => exact ⟨rfl, rfl, fun _ => rfl⟩
  | _ => exact ⟨rfl, rfl, fun _ => rfl⟩

/-- A program runs alike whether its traffic is recorded or not. -/
theorem recorded_exec {σ α : Type} (web : Web ω) (rest : Environment ω) (onInterrupt : Program σ Unit)
    (depth : Nat) (p : Program σ α) (sw : σ × State × List Exchange × ω) :
    Prod.map id (Prod.map id unrecorded) ((recorded web rest).exec onInterrupt depth p sw) =
      (environment web rest).exec onInterrupt depth p (Prod.map id unrecorded sw) :=
  (recorded_shows web rest).exec onInterrupt depth p sw

/-! ## What calls do to the bookmarks -/

/-- The bookmarks of all sessions. -/
def State.bookmarks (st : State) : List (Option Bookmark) :=
  st.sessions.map (·.bookmark?)

/-- The session on which a call commits queries. -/
def committing? : Driver.Call → Option Driver.SessionRef
  | .run session _ => some session
  | .write session _ => some session
  | _ => none

/-- A request that carries a session's bookmark. -/
def Commits (bookmark? : Option Bookmark) (request : Request) : Prop :=
  ∃ base username password database queries,
    request = Request.commit base username password database queries bookmark?

/-- The bookmarks of all sessions behind an exchange on one of them. -/
def Exchange.keep (e : Exchange) (i : Nat) (bookmarks : List (Option Bookmark)) :
    List (Option Bookmark) :=
  match e.bookmark? with
  | none => bookmarks
  | some latest => bookmarks.modify i fun _ => some latest

/-- What a call does to the bookmarks of the sessions. -/
inductive Treats (st : State) : (c : Driver.Call) → Step c.Reply → Prop where
  | opens {driver : Driver.Ref} {config : SessionConfig} {st' : State}
      (hbookmarks : st'.bookmarks = st.bookmarks ++ [config.bookmark]) :
      Treats st (.openSession driver config) (.replied (.ok ⟨st.sessions.length⟩) st')
  /-- Nothing is sent. -/
  | replies {c : Driver.Call} {reply : c.Reply} {st' : State}
      (hbookmarks : st'.bookmarks = st.bookmarks) : Treats st c (.replied reply st')
  /-- A request that commits nothing. -/
  | looks {c : Driver.Call} {request : Request} {conclude : Answer → State → c.Reply × State}
      (hmethod : request.method = .get)
      (hconclude : ∀ answer st', (conclude answer st').2.bookmarks = st'.bookmarks) :
      Treats st c (.exchange request conclude)
  /-- What comes back is the session's bookmark from then on. -/
  | commits {c : Driver.Call} {session : Driver.SessionRef} {bookmark? : Option Bookmark}
      {request : Request} {conclude : Answer → State → c.Reply × State}
      (hcommitting : committing? c = some session)
      (hbookmark : st.bookmarks[session.number]? = some bookmark?)
      (hrequest : Commits bookmark? request)
      (hconclude : ∀ answer st', st'.sessions = st.sessions → (conclude answer st').2.bookmarks =
        (st'.exchanged c request answer).keep session.number st'.bookmarks) :
      Treats st c (.exchange request conclude)

/-- A change of a session is one of its bookmark. -/
theorem onSession_bookmarks (st : State) (i : Nat) {f : Session → Session}
    {g : Option Bookmark → Option Bookmark} (hfg : ∀ session, (f session).bookmark? = g session.bookmark?) :
    (st.onSession i f).bookmarks = st.bookmarks.modify i g := by
  unfold State.bookmarks State.onSession
  refine List.ext_getElem? fun j => ?_
  rw [List.getElem?_modify, List.getElem?_map, List.getElem?_map, List.getElem?_modify]
  cases st.sessions[j]? with
  | none => rfl
  | some session =>
    by_cases h : i = j
    · simp [h, hfg]
    · simp [h]

theorem treats_verify (st : State) (driver : Driver.Ref) :
    Treats st (.verify driver) (st.begin (.verify driver)) := by
  show Treats st (.verify driver) (st.verify driver.number)
  unfold State.verify
  cases st.servers[driver.number]? with
  | none => exact .replies rfl
  | some server =>
    dsimp only
    unfold State.sendUnlessInterrupted
    split
    · exact .replies rfl
    split
    · exact .replies rfl
    refine .looks rfl fun answer st' => ?_
    split
    · rfl
    · dsimp only
      cases readDiscovery server.base answer <;> rfl

/-! ## Commits -/

/-- The request that commits queries on a session. -/
def commitRequest (server : Server) (session : Session) (queries : List Query) : Request :=
  Request.commit server.base server.username server.password session.database queries
    session.bookmark?

/-- What is concluded from the answer to a commit on the session `i`. -/
def concludeCommit (i : Nat) (session : Session) (url : Url) (answer : Answer) (st : State) :
    Except Driver.Error (List Outcome) × State :=
  if st.isInterrupted session.server then (.error .interrupted, st)
  else
    match readCommit url answer with
    | .error fault => (.error fault.toError, st)
    | .ok committed =>
      (.ok (committed.outcomes ((st.servers[session.server]?).bind (·.version?)) session.database),
        if committed.bookmarks.isEmpty then st
        else st.onSession i fun session => { session with bookmark? := some committed.bookmarks })

/-- The first step of a commit on the session `i`. -/
inductive CommitStep (st : State) (i : Nat) (queries : List Query) :
    Step (Except Driver.Error (List Outcome)) → Prop where
  | unknown : (∀ session, st.sessions[i]? = some session → st.servers[session.server]? = none) →
      CommitStep st i queries (.replied (.error Fault.unknownReference.toError) st)
  | closed {session : Session} : st.sessions[i]? = some session → session.isOpen = false →
      CommitStep st i queries (.replied (.error Fault.sessionClosed.toError) st)
  | interrupted {session : Session} : st.sessions[i]? = some session →
      st.isInterrupted session.server = true →
      CommitStep st i queries (.replied (.error .interrupted) st)
  | unsendable {session : Session} {server : Server} : st.sessions[i]? = some session →
      st.servers[session.server]? = some server →
      (commitRequest server session queries).url.isSendable = false →
      CommitStep st i queries (.replied
        (.error (Fault.unsendable (commitRequest server session queries).url.text).toError) st)
  | sent {session : Session} {server : Server}
      {conclude : Answer → State → Except Driver.Error (List Outcome) × State} :
      st.sessions[i]? = some session → st.servers[session.server]? = some server →
      session.isOpen = true → st.isInterrupted session.server = false →
      (commitRequest server session queries).url.isSendable = true →
      (∀ answer st', conclude answer st' =
        concludeCommit i session (commitRequest server session queries).url answer st') →
      CommitStep st i queries (.exchange (commitRequest server session queries) conclude)

theorem commit_step (st : State) (i : Nat) (queries : List Query) :
    CommitStep st i queries (st.commit i queries) := by
  unfold State.commit
  cases hsession : st.sessions[i]? with
  | none => exact .unknown fun _ h => by cases hsession.symm.trans h
  | some session =>
    dsimp only
    cases hserver : st.servers[session.server]? with
    | none => exact .unknown fun _ h => by cases hsession.symm.trans h; exact hserver
    | some server =>
      dsimp only
      split
      · rename_i hclosed
        exact .closed hsession (by simpa using hclosed)
      rename_i hopen
      unfold State.sendUnlessInterrupted
      split
      · rename_i hinterrupted
        exact .interrupted hsession hinterrupted
      rename_i hquiet
      split
      · rename_i hunsendable
        exact .unsendable hsession hserver (by simpa [commitRequest] using hunsendable)
      rename_i hsendable
      refine .sent hsession hserver (by simpa using hopen) (by simpa using hquiet)
        (by simpa [commitRequest] using hsendable) fun answer st' => ?_
      unfold concludeCommit commitRequest
      split
      · rfl
      · cases hread : readCommit _ answer <;> simp only [hread]

/-- A commit fails at once, or it sends a request with the session's bookmark; what comes back, unless
the request is given up, becomes the session's bookmark. -/
theorem commit_cases (st : State) (i : Nat) (queries : List Query) :
    (∃ e, st.commit i queries = .replied (.error e) st) ∨
      ∃ session request conclude, st.sessions[i]? = some session ∧
        st.commit i queries = .exchange request conclude ∧ Commits session.bookmark? request ∧
        ∀ answer st', (conclude answer st').2.bookmarks = Exchange.keep
          ⟨request, if st'.isInterrupted session.server then none else some answer⟩ i
          st'.bookmarks := by
  have hstep := commit_step st i queries
  generalize st.commit i queries = step at hstep ⊢
  cases hstep with
  | unknown | closed | interrupted | unsendable => exact .inl ⟨_, rfl⟩
  | sent hsession _ _ _ _ hconclude =>
    refine .inr ⟨_, _, _, hsession, rfl, ⟨_, _, _, _, _, rfl⟩, fun answer st' => ?_⟩
    rw [hconclude]
    unfold concludeCommit Exchange.keep
    split
    · rfl
    rw [Exchange.bookmark?_eq rfl]
    cases readCommit _ answer with
    | error fault => rfl
    | ok committed =>
      dsimp only
      split
      · rfl
      · exact onSession_bookmarks st' i fun _ => rfl

theorem asked?_of_committing {c : Driver.Call} {session : Driver.SessionRef}
    (h : committing? c = some session) (st : State) :
    st.asked? c = (st.sessions[session.number]?).map (·.server) := by
  unfold committing? at h
  split at h
  · cases h
    rfl
  · cases h
    rfl
  · cases h

/-- Whatever becomes of the reply, committing treats the bookmarks in one way. -/
theorem treats_commit {c : Driver.Call} {session : Driver.SessionRef}
    (hcommitting : committing? c = some session) (st : State) (queries : List Query)
    (f : Except Driver.Error (List Outcome) → c.Reply) :
    Treats st c ((st.commit session.number queries).map f) := by
  rcases commit_cases st session.number queries with
    ⟨e, h⟩ | ⟨s, request, conclude, hs, h, hrequest, hconclude⟩
  · rw [h]
    exact .replies rfl
  · rw [h]
    refine .commits hcommitting ?_ hrequest fun answer st' hsame => ?_
    · unfold State.bookmarks
      rw [List.getElem?_map, hs]
      rfl
    · unfold State.exchanged
      rw [asked?_of_committing hcommitting, hsame, hs]
      exact hconclude answer st'

theorem map_id {ρ : Type} (step : Step ρ) : step.map id = step := by
  cases step <;> rfl

/-- Every call treats the bookmarks in one of four ways. -/
theorem treats_begin (st : State) (c : Driver.Call) : Treats st c (st.begin c) := by
  cases c with
  | openDriver e =>
    refine .replies ?_
    split
    · rfl
    · split <;> rfl
  | verify driver => exact treats_verify st driver
  | openSession driver config => exact .opens List.map_append
  | run session query =>
    show Treats st (.run session query) ((st.commit session.number [query]).map State.single)
    exact treats_commit (c := .run session query) rfl st [query] State.single
  | write session queries =>
    cases queries with
    | nil => exact .replies rfl
    | cons query queries =>
      have htreats := treats_commit (c := .write session (query :: queries)) rfl st (query :: queries) id
      rwa [map_id] at htreats
  | resetSession session =>
    unfold State.begin
    dsimp only
    cases st.sessions[session.number]? with
    | none => exact .replies rfl
    | some s => exact .replies rfl
  | closeSession session =>
    refine .replies ?_
    refine (onSession_bookmarks st session.number (g := id) ?_).trans (List.modify_id _ _)
    exact fun _ => rfl
  | _ => exact .replies rfl

end Http

end QueryShell
