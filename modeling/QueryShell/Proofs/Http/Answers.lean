import QueryShell.Proofs.Http.Traffic

/-
What the answer to a commit means. Status, body, errors, results and bookmarks of an answer can be
combined freely, and they are looked at in a certain order: the errors of a body that can be read come
first, whatever the status is, and the status comes before a body that cannot be read. `Understood` says
what the reply is for each combination, and `Leaves` which answers change the bookmark of the session;
`commit_meaning` has both for all that is sent over a web on an open session.
-/
namespace QueryShell.Http

/-! ## What answers say -/

/-- The queries were committed: the status says so, and the body can be read and has no errors. -/
def Answer.Confirms (answer : Answer) (committed : Committed) : Prop :=
  ∃ status body?, answer = .response status body? ∧ (200 ≤ status.code ∧ status.code ≤ 299) ∧
    Committed.decoder.decodeBody? body? = some committed ∧ committed.errors = []

/-- There is nothing in the body that counts before the status. -/
def Uncomplaining (body? : Option (List UInt8)) : Prop :=
  ∀ committed, Committed.decoder.decodeBody? body? = some committed → committed.errors = []

/-- The outcomes are the results in their order. -/
structure Reports (committed : Committed) (version? : Option String) (database : String)
    (outcomes : List Outcome) : Prop where
  keys : outcomes.map (·.keys) = committed.results.map (·.columns)
  rows : outcomes.map (·.rows) = committed.results.map (·.rows)
  server : ∀ o ∈ outcomes, o.version = version? ∧ o.database = some database

/-- What an error of the server is, by its code. -/
def errorOfCode (e : ServerError) : Driver.Error :=
  if e.code = "Neo.ClientError.Security.Unauthorized" then .authentication e.message
  else if e.code = "Neo.ClientError.Cluster.NotALeader" ∨
      e.code = "Neo.ClientError.General.ForbiddenOnReadOnlyDatabase" then .sessionExpired e.message
  else .server e.code e.message

/-- The reply to an answer from `url`, of which `take` takes what was asked for out of the outcomes. -/
structure Understood {α : Type} (take : List Outcome → Option α) (url : Url) (version? : Option String)
    (database : String) (answer : Answer) (reply : Except Driver.Error α) : Prop where
  ok : ∀ a, reply = .ok a ↔ ∃ committed outcomes, answer.Confirms committed ∧
    Reports committed version? database outcomes ∧ take outcomes = some a
  missing : ∀ committed outcomes, answer.Confirms committed →
    Reports committed version? database outcomes → take outcomes = none →
      reply = .error (.protocol "Server returned no result")
  /-- The first error of the server, whatever the status is. -/
  rejected : ∀ status body? committed e errors, answer = .response status body? →
    Committed.decoder.decodeBody? body? = some committed → committed.errors = e :: errors →
      reply = .error (errorOfCode e)
  unauthorized : ∀ status body?, answer = .response status body? → Uncomplaining body? →
    status.code = 401 →
      reply = .error (.authentication "The client is unauthorized due to authentication failure.")
  failed : ∀ status body?, answer = .response status body? → Uncomplaining body? →
    status.code ≠ 401 → ¬ (200 ≤ status.code ∧ status.code ≤ 299) →
      reply = .error (.unavailable s!"Server responded with HTTP {status.text}")
  unreadable : ∀ status body?, answer = .response status body? →
    (200 ≤ status.code ∧ status.code ≤ 299) → Committed.decoder.decodeBody? body? = none →
      reply = .error (.protocol "Invalid response from server: error decoding response body")
  unanswered : answer = .unreachable →
    reply = .error (.unavailable
      s!"Unable to reach the server: error sending request for url ({url.text})")

/-- What an answer does to the session `i`: only the bookmarks of a commit count, and nothing else is
changed. -/
structure Leaves (i : Nat) (answer : Answer) (before after : State) : Prop where
  renewed : ∀ committed, answer.Confirms committed → committed.bookmarks ≠ [] →
    after = before.onSession i fun session =>
      { session with bookmark? := some committed.bookmarks }
  same : (∀ committed, answer.Confirms committed → committed.bookmarks = []) → after = before

theorem isSuccess_iff (status : Status) :
    status.isSuccess = true ↔ 200 ≤ status.code ∧ status.code ≤ 299 := by
  simp [Status.isSuccess]

theorem toError_eq (e : ServerError) : e.toError = errorOfCode e := by
  unfold ServerError.toError errorOfCode
  congr 1
  simp [expiredCodes]

/-- The outcomes of a commit are its results. -/
theorem reports_iff {committed : Committed} {version? : Option String} {database : String}
    {outcomes : List Outcome} :
    Reports committed version? database outcomes ↔
      outcomes = committed.outcomes version? database := by
  obtain ⟨results, errors, bookmarks⟩ := committed
  constructor
  · rintro ⟨hkeys, hrows, hserver⟩
    dsimp only at hkeys hrows
    unfold Committed.outcomes
    -- keys and rows are given by two lists, so an outcome is taken off both at a time
    induction results generalizing outcomes with
    | nil => simpa using hkeys
    | cons result results ih =>
      cases outcomes with
      | nil => cases hkeys
      | cons o outcomes =>
        obtain ⟨hkey, hkeys⟩ := List.cons.inj hkeys
        obtain ⟨hrow, hrows⟩ := List.cons.inj hrows
        dsimp only at hkey hrow
        obtain ⟨⟨hversion, hdatabase⟩, hserver⟩ := List.forall_mem_cons.1 hserver
        have hrest := ih hkeys hrows hserver
        dsimp only at hrest ⊢
        rw [List.map_cons, ← hrest, ← hkey, ← hrow, ← hversion, ← hdatabase]
  · rintro rfl
    refine ⟨?_, ?_, ?_⟩
    · simp [Committed.outcomes]
    · simp [Committed.outcomes]
    · intro o ho
      obtain ⟨result, -, rfl⟩ := List.mem_map.1 ho
      exact ⟨rfl, rfl⟩

/-! ## How they are read -/

/-- An answer with an error, whatever its status is. -/
theorem readCommit_rejected {status : Status} {body? : Option (List UInt8)} {committed : Committed}
    {e : ServerError} {errors : List ServerError}
    (hdecode : Committed.decoder.decodeBody? body? = some committed)
    (herrors : committed.errors = e :: errors) (url : Url) :
    readCommit url (.response status body?) = .error (.serverError e) := by
  unfold readCommit
  simp only [hdecode, herrors]

/-- An answer whose status stands for a fault, if there is nothing before that. -/
theorem readCommit_status {status : Status} {body? : Option (List UInt8)} {fault : Fault}
    (hquiet : Uncomplaining body?) (hfault : statusFault? status = some fault) (url : Url) :
    readCommit url (.response status body?) = .error fault := by
  unfold readCommit
  dsimp only
  cases hdecode : Committed.decoder.decodeBody? body? with
  | none => simp [hfault]
  | some committed => simp [hquiet committed hdecode, hfault]

theorem readCommit_ok_iff {url : Url} {answer : Answer} {committed : Committed} :
    readCommit url answer = .ok committed ↔ answer.Confirms committed := by
  constructor
  · intro h
    cases answer with
    | unreachable => cases h
    | response status body? =>
      unfold readCommit at h
      dsimp only at h
      cases hdecode : Committed.decoder.decodeBody? body? with
      | none =>
        rw [hdecode] at h
        cases h
      | some answered =>
        rw [hdecode] at h
        dsimp only at h
        split at h
        · cases h
        · cases h
        · rename_i herrors hfault
          cases h
          exact ⟨status, body?, rfl, (isSuccess_iff status).1 (statusFault?_eq_none.1 hfault), hdecode,
            herrors⟩
  · rintro ⟨status, body?, rfl, hstatus, hdecode, herrors⟩
    have hfault : statusFault? status = none :=
      statusFault?_eq_none.2 ((isSuccess_iff status).2 hstatus)
    unfold readCommit
    simp only [hdecode, herrors, hfault]

/-- The reply to what was read, of which `take` takes what was asked for. -/
def replyTo {α : Type} (take : List Outcome → Option α) (version? : Option String) (database : String)
    (read : Except Fault Committed) : Except Driver.Error α :=
  match read with
  | .error fault => .error fault.toError
  | .ok committed =>
    match take (committed.outcomes version? database) with
    | some a => .ok a
    | none => .error Fault.noResult.toError

/-- Every answer is understood. -/
theorem understood_replyTo {α : Type} (take : List Outcome → Option α) (url : Url)
    (version? : Option String) (database : String) (answer : Answer) :
    Understood take url version? database answer
      (replyTo take version? database (readCommit url answer)) := by
  -- a status only counts behind the errors, whatever fault it stands for
  have hstatus {status : Status} {body? : Option (List UInt8)} {fault : Fault}
      (hquiet : Uncomplaining body?) (hfault : statusFault? status = some fault) :
      replyTo take version? database (readCommit url (.response status body?)) =
        .error fault.toError := by
    rw [readCommit_status hquiet hfault]
    rfl
  constructor
  case ok =>
    intro a
    constructor
    · intro hreply
      cases hread : readCommit url answer with
      | error fault =>
        rw [hread] at hreply
        cases hreply
      | ok committed =>
        rw [hread, replyTo] at hreply
        cases htake : take (committed.outcomes version? database) with
        | none =>
          rw [htake] at hreply
          cases hreply
        | some taken =>
          rw [htake] at hreply
          cases hreply
          exact ⟨committed, _, readCommit_ok_iff.1 hread, reports_iff.2 rfl, htake⟩
    · rintro ⟨committed, outcomes, hconfirms, hreports, htake⟩
      rw [readCommit_ok_iff.2 hconfirms, replyTo, ← reports_iff.1 hreports, htake]
  case missing =>
    rintro committed outcomes hconfirms hreports htake
    rw [readCommit_ok_iff.2 hconfirms, replyTo, ← reports_iff.1 hreports, htake]
    rfl
  case rejected =>
    rintro status body? committed e errors rfl hdecode herrors
    rw [readCommit_rejected hdecode herrors, ← toError_eq]
    rfl
  case unauthorized =>
    rintro ⟨code⟩ body? rfl hquiet rfl
    have hfault : statusFault? ⟨401⟩ = some .unauthorized := rfl
    exact hstatus hquiet hfault
  case failed =>
    rintro status body? rfl hquiet hcode hfailed
    have hfault : statusFault? status = some (.commitStatus status) := by
      have hauthorized : status ≠ .unauthorized := fun heq => hcode (congrArg Status.code heq)
      rw [statusFault?, if_neg hauthorized, if_neg (mt (isSuccess_iff status).1 hfailed)]
    exact hstatus hquiet hfault
  case unreadable =>
    rintro status body? rfl hsuccess hdecode
    have hfault : statusFault? status = none :=
      statusFault?_eq_none.2 ((isSuccess_iff status).2 hsuccess)
    have hread : readCommit url (.response status body?) = .error .unreadableAnswer := by
      unfold readCommit
      simp only [hdecode, hfault, Option.getD_none]
    rw [hread]
    rfl
  case unanswered =>
    rintro rfl
    rfl

/-! ## Commits over a web -/

variable {ω : Type}

/-- What comes of a call over a web, by its first step. -/
def startStep {ρ : Type} (web : Web ω) (st : State) (w : ω) : Step ρ → Started (State × ω) ρ
  | .replied reply after => { world := (after, w), finish := fun world => (reply, world) }
  | .exchange request conclude =>
    let sent := web request w
    { world := (st, sent.world)
      interrupts := sent.interrupts
      finish := fun (st, w) =>
        let (answer, w) := sent.finish w
        let (reply, st) := conclude answer st
        (reply, (st, w)) }

theorem answerCall_eq (web : Web ω) (c : Driver.Call) (st : State) (w : ω) :
    answerCall web c (st, w) = startStep web st w (st.begin c) := by
  unfold answerCall
  dsimp only
  cases st.begin c <;> rfl

/-- What comes of a request that commits on the session `i`, over a web: it is sent, unless its address
takes none, and its answer is understood unless there was an interrupt meanwhile. -/
structure Meaning {α : Type} (web : Web ω) (take : List Outcome → Option α) (i : Nat) (session : Session)
    (request : Request) (st : State) (w : ω) (started : Started (State × ω) (Except Driver.Error α)) :
    Prop where
  unsendable : request.url.isSendable = false → started.world = (st, w) ∧ ∀ world,
    started.finish world = (.error (.unavailable
      s!"Unable to reach the server: builder error for url ({request.url.text})"), world)
  sent : request.url.isSendable = true → started.world = (st, (web request w).world) ∧
    started.interrupts = (web request w).interrupts
  answered : request.url.isSendable = true → ∀ (st' : State) (w' : ω),
    st'.isInterrupted session.server = false → ∃ reply after,
      started.finish (st', w') = (reply, after, ((web request w).finish w').2) ∧
      Understood take request.url ((st'.servers[session.server]?).bind (·.version?)) session.database
        ((web request w).finish w').1 reply ∧
      Leaves i ((web request w).finish w').1 st' after

/-- If nothing was interrupted, the reply of a commit is the reply to its answer. -/
theorem concludeCommit_fst {i : Nat} {session : Session} {st : State}
    (hquiet : st.isInterrupted session.server = false) (url : Url) (answer : Answer) :
    (concludeCommit i session url answer st).1 =
      replyTo some ((st.servers[session.server]?).bind (·.version?)) session.database
        (readCommit url answer) := by
  unfold concludeCommit
  rw [if_neg (by simp [hquiet])]
  cases readCommit url answer <;> rfl

theorem leaves_concludeCommit {i : Nat} {session : Session} {st : State}
    (hquiet : st.isInterrupted session.server = false) (url : Url) (answer : Answer) :
    Leaves i answer st (concludeCommit i session url answer st).2 := by
  unfold concludeCommit
  rw [if_neg (by simp [hquiet])]
  constructor
  · intro committed hconfirms hne
    simp [readCommit_ok_iff.2 hconfirms, hne]
  · intro hsame
    cases hread : readCommit url answer with
    | error fault => rfl
    | ok committed => simp [hsame committed (readCommit_ok_iff.1 hread)]

/-- Whoever asks for one outcome takes the first. -/
theorem single_replyTo (version? : Option String) (database : String) (read : Except Fault Committed) :
    State.single (replyTo some version? database read) =
      replyTo List.head? version? database read := by
  cases read with
  | error fault => rfl
  | ok committed =>
    unfold replyTo
    dsimp only
    cases committed.outcomes version? database <;> rfl

variable {st : State} {i : Nat} {session : Session} {server : Server} {queries : List Query}

/-- A commit whose reply is passed on through `f` means the same over every web, if `f` takes out of the
outcomes what was asked for. -/
theorem CommitStep.meaning {α : Type} {take : List Outcome → Option α}
    {f : Except Driver.Error (List Outcome) → Except Driver.Error α}
    (hf : ∀ version? database read,
      f (replyTo some version? database read) = replyTo take version? database read)
    {step : Step (Except Driver.Error (List Outcome))} (h : CommitStep st i queries step)
    (hsession : st.sessions[i]? = some session) (hopen : session.isOpen = true)
    (hserver : st.servers[session.server]? = some server)
    (hquiet : st.isInterrupted session.server = false) (web : Web ω) (w : ω) :
    Meaning web take i session (commitRequest server session queries) st w
      (startStep web st w (step.map f)) := by
  have hfault (fault : Fault) : f (.error fault.toError) = .error fault.toError :=
    hf none "" (.error fault)
  -- the session is open and nothing was interrupted, which leaves two ways to begin
  cases h with
  | unknown hunknown => cases (hunknown session hsession).symm.trans hserver
  | closed hsession' hclosed =>
    cases hsession.symm.trans hsession'
    cases hopen.symm.trans hclosed
  | interrupted hsession' hinterrupted =>
    cases hsession.symm.trans hsession'
    cases hquiet.symm.trans hinterrupted
  | unsendable hsession' hserver' hunsendable =>
    cases hsession.symm.trans hsession'
    cases hserver.symm.trans hserver'
    constructor
    case unsendable => exact fun _ => ⟨rfl, fun world => congrArg (·, world) (hfault _)⟩
    case sent | answered =>
      intro hsendable
      cases hunsendable.symm.trans hsendable
  | sent hsession' hserver' _ _ hsendable hconclude =>
    cases hsession.symm.trans hsession'
    cases hserver.symm.trans hserver'
    constructor
    case unsendable =>
      intro hunsendable
      cases hunsendable.symm.trans hsendable
    case sent => exact fun _ => ⟨rfl, rfl⟩
    case answered =>
      intro _ st' w' hquiet'
      have hleaves := leaves_concludeCommit (i := i) hquiet' (commitRequest server session queries).url
      refine ⟨_, _, ?_, understood_replyTo take _ _ _ _, hleaves _⟩
      simp only [startStep, Step.map, hconclude, concludeCommit_fst hquiet', hf]

/-- On an open session, over any web, a query and a list of queries that is not empty are each one
request, and every answer means what it should: whoever writes gets all the outcomes, and whoever runs
a query the first. -/
theorem commit_meaning (s : Driver.SessionRef) (hsession : st.sessions[s.number]? = some session)
    (hopen : session.isOpen = true) (hserver : st.servers[session.server]? = some server)
    (hquiet : st.isInterrupted session.server = false) (web : Web ω) (w : ω) :
    (∀ query, Meaning web List.head? s.number session (commitRequest server session [query]) st w
      (answerCall web (.run s query) (st, w))) ∧
    ∀ queries, queries ≠ [] →
      Meaning web some s.number session (commitRequest server session queries) st w
        (answerCall web (.write s queries) (st, w)) := by
  constructor
  · intro query
    rw [answerCall_eq]
    exact (commit_step st s.number [query]).meaning single_replyTo hsession hopen hserver hquiet web w
  · intro queries hne
    rw [answerCall_eq]
    obtain ⟨query, rest, rfl⟩ := List.exists_cons_of_ne_nil hne
    have hmeaning : Meaning web some s.number session (commitRequest server session (query :: rest))
        st w (startStep web st w ((st.commit s.number (query :: rest)).map id)) :=
      (commit_step st s.number (query :: rest)).meaning (fun _ _ _ => rfl) hsession hopen hserver
        hquiet web w
    rwa [map_id] at hmeaning

/-- The error in the body counts, not the status. -/
theorem commit_meaning_deposed :
    let base : Url := ⟨"http".toList, "[::1]".toList, none, [[]], none, none⟩
    let server : Server := { base, username := "", password := "" }
    let session : Session := { server := 0, database := "neo4j", bookmark? := none }
    let st : State := { servers := [server], sessions := [session] }
    let body := "[[],[[\"Neo.ClientError.Cluster.NotALeader\",\"No longer a leader\"]],[]]"
    let web : Web Unit := fun _ _ =>
      { world := (), finish := fun w => (.response ⟨503⟩ (some (Text.Utf8.bytes body)), w) }
    let query : Query := { text := "CREATE ();" }
    let started := answerCall web (.run ⟨0⟩ query) (st, ())
    (st.sessions[0]? = some session ∧ session.isOpen = true ∧ st.servers[0]? = some server ∧
      st.isInterrupted 0 = false) ∧
    Meaning web List.head? 0 session (commitRequest server session [query]) st () started ∧
    (started.finish (st, ())).1 = .error (.sessionExpired "No longer a leader") := by
  intro base server session st body web query started
  have hsession : st.sessions[0]? = some session := rfl
  have hserver : st.servers[0]? = some server := rfl
  have hmeaning := (commit_meaning ⟨0⟩ hsession rfl hserver (by decide) web ()).1 query
  refine ⟨⟨hsession, rfl, hserver, by decide⟩, hmeaning, ?_⟩
  obtain ⟨reply, after, hfinish, hunderstood, -⟩ :=
    hmeaning.answered (by decide +kernel) st () (by decide)
  have hbody : (Committed.decoder.decodeBody? (some (Text.Utf8.bytes body))).map (·.errors) =
      some [⟨"Neo.ClientError.Cluster.NotALeader", "No longer a leader"⟩] := by decide +kernel
  obtain ⟨committed, hdecode, herrors⟩ := Option.map_eq_some_iff.1 hbody
  rw [hfinish]
  exact hunderstood.rejected _ _ committed _ [] rfl hdecode herrors

end QueryShell.Http
