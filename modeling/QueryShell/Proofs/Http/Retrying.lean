import QueryShell.Proofs.Connection.Retrying
import QueryShell.Proofs.Http.Chaining

/-
How often a query is sent to a server. A request may have been served although no answer came back, so
a query is only sent again behind an answer which says that the server has not run it: one that can be
read, and whose first error has one of two codes. Whatever else is the matter with an answer, or if
there is none, the query is not sent again.
-/
namespace QueryShell.Http

/-! ## What requests and answers say -/

/-- The server is asked to run queries. -/
def Exchange.Posts (e : Exchange) (queries : List Query) : Prop :=
  ∃ base username password database bookmark?,
    e.request = Request.commit base username password database queries bookmark?

/-- The server is asked about itself. -/
def Exchange.Discovers (e : Exchange) : Prop :=
  ∃ base username password, e.request = Request.discovery base username password

/-- There is an answer, it can be read, and its first error says that the session has expired. -/
def Exchange.Expires (e : Exchange) : Prop :=
  ∃ status body? committed error errors, e.answer? = some (.response status body?) ∧
    Committed.decoder.decodeBody? body? = some committed ∧ committed.errors = error :: errors ∧
    (error.code = "Neo.ClientError.Cluster.NotALeader" ∨
      error.code = "Neo.ClientError.General.ForbiddenOnReadOnlyDatabase")

open Connection (Expired)

/-- Only some codes of servers become an expired session. -/
theorem expired_toError {α : Type} {e : ServerError}
    (h : Expired (.error e.toError : Except Driver.Error α)) :
    e.code = "Neo.ClientError.Cluster.NotALeader" ∨
      e.code = "Neo.ClientError.General.ForbiddenOnReadOnlyDatabase" := by
  unfold ServerError.toError at h
  split at h
  · cases h
  split at h
  · rename_i hcontains
    simpa [expiredCodes] using hcontains
  · cases h

/-- No status says that the session has expired. -/
theorem not_expired_of_statusFault? {α : Type} {status : Status} {fault : Fault}
    (h : statusFault? status = some fault) :
    ¬ Expired (.error fault.toError : Except Driver.Error α) := by
  unfold statusFault? at h
  split at h
  · cases h
    exact id
  · split at h <;> cases h
    exact id

/-- The session has expired only if an answer says so. -/
theorem expires_of_readCommit {α : Type} {request : Request} {answer : Answer} {fault : Fault}
    (hread : readCommit request.url answer = .error fault)
    (h : Expired (.error fault.toError : Except Driver.Error α)) :
    Exchange.Expires ⟨request, some answer⟩ := by
  unfold readCommit at hread
  cases answer with
  | unreachable =>
    cases hread
    cases h
  | response status body? =>
    dsimp only at hread
    cases hdecode : Committed.decoder.decodeBody? body? with
    | none =>
      rw [hdecode] at hread
      cases hread
      cases hfault : statusFault? status with
      | none =>
        rw [hfault] at h
        cases h
      | some fault =>
        rw [hfault] at h
        exact absurd h (not_expired_of_statusFault? hfault)
    | some committed =>
      rw [hdecode] at hread
      dsimp only at hread
      cases herrors : committed.errors with
      | cons e errors =>
        rw [herrors] at hread
        cases hread
        exact ⟨status, body?, committed, e, errors, rfl, hdecode, herrors, expired_toError h⟩
      | nil =>
        rw [herrors] at hread
        cases hfault : statusFault? status with
        | none =>
          rw [hfault] at hread
          cases hread
        | some fault =>
          rw [hfault] at hread
          cases hread
          exact absurd h (not_expired_of_statusFault? hfault)

/-! ## What calls send -/

/-- A server that is asked about itself is sent one request, or the call fails. -/
theorem verify_sends (st : State) (i : Nat) :
    (∃ e, st.verify i = .replied (.error e) st) ∨
      ∃ request conclude, st.verify i = .exchange request conclude ∧
        ∃ base username password, request = Request.discovery base username password := by
  unfold State.verify
  cases st.servers[i]? with
  | none => exact .inl ⟨_, rfl⟩
  | some server =>
    dsimp only
    unfold State.sendUnlessInterrupted
    split
    · exact .inl ⟨_, rfl⟩
    split
    · exact .inl ⟨_, rfl⟩
    · exact .inr ⟨_, _, rfl, _, _, _, rfl⟩

/-- Queries are sent in one request, or the call fails, and not for an expired session if the session is
open. Only the answer can say that the session has expired. -/
theorem commit_sends (st : State) (i : Nat) (queries : List Query) :
    (∃ e, st.commit i queries = .replied (.error e) st ∧
      ((st.sessions[i]?).any (·.isOpen) = true →
        ¬ Expired (.error e : Except Driver.Error (List Outcome)))) ∨
      ∃ session request conclude, st.sessions[i]? = some session ∧
        st.commit i queries = .exchange request conclude ∧
        (∃ base username password database bookmark?,
          request = Request.commit base username password database queries bookmark?) ∧
        ∀ answer st', Expired (conclude answer st').1 → Exchange.Expires
          ⟨request, if st'.isInterrupted session.server then none else some answer⟩ := by
  have hstep := commit_step st i queries
  generalize st.commit i queries = step at hstep ⊢
  cases hstep with
  | unknown | interrupted | unsendable => exact .inl ⟨_, rfl, fun _ => id⟩
  | closed hsession hclosed => exact .inl ⟨_, rfl, fun hopen => by simp [hsession, hclosed] at hopen⟩
  | sent hsession _ _ _ _ hconclude =>
    refine .inr ⟨_, _, _, hsession, rfl, ⟨_, _, _, _, _, rfl⟩, fun answer st' hexpired => ?_⟩
    rw [hconclude] at hexpired
    unfold concludeCommit at hexpired
    split at hexpired
    · cases hexpired
    rename_i hcounts
    rw [if_neg hcounts]
    split at hexpired
    · rename_i fault hread
      exact expires_of_readCommit hread hexpired
    · cases hexpired

/-- A lack of outcomes does not say that the session has expired. -/
theorem expired_single {reply : Except Driver.Error (List Outcome)} :
    Expired (State.single reply) ↔ Expired reply := by
  rcases reply with e | outcomes
  · cases e <;> rfl
  · cases outcomes <;> rfl

/-- A call that sends no request. -/
def Silent : Call → Prop
  | .driver (.verify _) => False
  | .driver (.run _ _) => False
  | .driver (.write _ _) => False
  | _ => True

theorem begin_silent {c : Driver.Call} (h : Silent (.driver c)) (st : State) :
    ∃ reply st', st.begin c = .replied reply st' := by
  cases c with
  | verify => cases h
  | run => cases h
  | write => cases h
  | resetSession session =>
    unfold State.begin
    dsimp only
    cases st.sessions[session.number]? with
    | none => exact ⟨_, _, rfl⟩
    | some s => exact ⟨_, _, rfl⟩
  | _ => exact ⟨_, _, rfl⟩

end QueryShell.Http

namespace QueryShell.Connection

open Program Http

variable {ω : Type} {web : Web ω} {rest : Environment ω} {depth : Nat} {s s' : Scene ω}

/-! ## Calls over a web -/

theorem overWeb_silent {call : Call} (hsilent : Silent call) {reply : call.Reply}
    (h : overWeb web rest depth call s reply s') : s'.2.2.1 = s.2.2.1 := by
  cases call with
  | driver c =>
    obtain ⟨r, st', hbegin⟩ := begin_silent hsilent s.2.1
    obtain ⟨-, hstirred⟩ := overWeb_replied hbegin h
    exact hstirred.log
  | _ =>
    obtain ⟨m, hm, hreply, hstate⟩ := overWeb_cases h
    obtain ⟨c, st, log, w⟩ := s
    obtain ⟨c', world'⟩ := s'
    obtain ⟨-, rfl⟩ := Prod.mk.inj hreply
    exact hm.log

theorem overWeb_verify {driver : Driver.Ref} {reply : Except Driver.Error Unit}
    (h : overWeb web rest depth (.driver (.verify driver)) s reply s') :
    (s'.2.2.1 = s.2.2.1 ∧ reply ≠ .ok ()) ∨ ∃ e, s'.2.2.1 = s.2.2.1 ++ [e] ∧ e.Discovers := by
  rcases verify_sends s.2.1 driver.number with ⟨e, hbegin⟩ | ⟨request, conclude, hbegin, hrequest⟩
  · obtain ⟨rfl, hstirred⟩ := overWeb_replied (c := .verify driver) hbegin h
    exact .inl ⟨hstirred.log, nofun⟩
  · obtain ⟨m, answer, -, -, -, hlog⟩ := overWeb_exchange (c := .verify driver) hbegin h
    exact .inr ⟨_, hlog, hrequest⟩

/-- The session is open. -/
def IsOpen (s : Scene ω) (session : Driver.SessionRef) : Prop :=
  (s.2.1.sessions[session.number]?).any (·.isOpen) = true

theorem overWeb_run {session : Driver.SessionRef} {query : Query}
    {reply : Except Driver.Error Outcome}
    (h : overWeb web rest depth (.driver (.run session query)) s reply s') :
    (s'.2.2.1 = s.2.2.1 ∧ (∀ outcome, reply ≠ .ok outcome) ∧ (IsOpen s session → ¬ Expired reply)) ∨
      ∃ e, s'.2.2.1 = s.2.2.1 ++ [e] ∧ e.Posts [query] ∧ (Expired reply → e.Expires) := by
  have hcall : s.2.1.begin (.run session query) =
    (s.2.1.commit session.number [query]).map State.single := rfl
  rcases commit_sends s.2.1 session.number [query] with
    ⟨e, hcommit, hexpired⟩ | ⟨used, request, conclude, hused, hcommit, hrequest, hexpires⟩
  · rw [hcommit] at hcall
    obtain ⟨rfl, hstirred⟩ := overWeb_replied hcall h
    exact .inl ⟨hstirred.log, nofun, fun hopen h => hexpired hopen (expired_single.1 h)⟩
  · rw [hcommit] at hcall
    obtain ⟨m, answer, hm, -, hreply, hlog⟩ := overWeb_exchange hcall h
    refine .inr ⟨_, hlog, hrequest, fun hexpired => ?_⟩
    have hsingle : reply = State.single (conclude answer m.2.1).1 := congrArg Prod.fst hreply
    rw [hsingle] at hexpired
    -- the session still belongs to the server that was asked
    have hasked : m.2.1.asked? (.run session query) = some used.server := by
      show (m.2.1.sessions[session.number]?).map (·.server) = _
      rw [hm.sessions, hused]
      rfl
    unfold State.exchanged
    rw [hasked]
    exact hexpires answer m.2.1 (expired_single.1 hexpired)

/-! ## The ways of a query -/

/-- A session was replaced: its server was asked about itself, and the new session was tested. -/
def Tested (sent : List Exchange) : Prop :=
  ∃ asked test database, sent = [asked, test] ∧ asked.Discovers ∧ test.Posts [probe database]

/-- What is sent to replace a session, as far as that goes. -/
inductive Renewing : List Exchange → Prop where
  | unasked : Renewing []
  | asked {e : Exchange} : e.Discovers → Renewing [e]
  | tested {sent : List Exchange} : Tested sent → Renewing sent

/-- What is sent for a query. -/
inductive Delivery (query : Query) : List Exchange → Prop where
  | unsent : Delivery query []
  | once {e : Exchange} : e.Posts [query] → Delivery query [e]
  /-- The answer says that the session has expired, and the query is not sent again. -/
  | renewing {first : Exchange} {between : List Exchange} : first.Posts [query] → first.Expires →
      Renewing between → Delivery query (first :: between)
  /-- The answer says that the session has expired, and on a new session the query is sent again. -/
  | twice {first second : Exchange} {between : List Exchange} : first.Posts [query] →
      first.Expires → Tested between → second.Posts [query] →
      Delivery query (first :: between ++ [second])

/-- Looking whether a session is open sends nothing. -/
theorem ensures_openSession?_silent (s : Scene ω) :
    Ensures (overWeb web rest depth) openSession? (fun session? s' => s'.2.2.1 = s.2.2.1 ∧
      ∀ session, session? = some session → IsOpen s' session) s := by
  unfold openSession?
  rw [ensures_bind, ensures_get]
  cases hsession : s.1.link.session? with
  | none => exact ⟨rfl, nofun⟩
  | some session =>
    dsimp only
    rw [ensures_bind]
    refine (ensures_call (.driver (.isOpen session)) _ s).2 fun isOpen s' hover => ?_
    obtain ⟨hreply, hstirred⟩ := overWeb_replied rfl hover
    refine ⟨hstirred.log, fun found hfound => ?_⟩
    cases isOpen with
    | false => cases hfound
    | true =>
      cases hfound
      unfold IsOpen
      rw [hstirred.sessions, Option.any_eq_true]
      obtain ⟨used, hused, hopen⟩ := Option.map_eq_some_iff.1
        ((Option.getD_eq_iff.1 hreply.symm).resolve_right fun h => by cases h.2)
      exact ⟨used, hused, hopen⟩

theorem ensures_requireSession_silent (s : Scene ω) :
    Ensures (overWeb web rest depth) requireSession.run (fun r s' => s'.2.2.1 = s.2.2.1 ∧
      ∀ session, r = .ok session → IsOpen s' session) s := by
  unfold requireSession
  rw [Attempt.ensures_lift_bind]
  refine (ensures_openSession?_silent s).weaken ?_
  rintro (_ | session) s' ⟨hlog, hopen⟩
  · exact ⟨hlog, nofun⟩
  · refine ⟨hlog, fun found hfound => ?_⟩
    cases hfound
    exact hopen session rfl

theorem ensures_requireConnected_silent (s : Scene ω) :
    Ensures (overWeb web rest depth) requireConnected.run (fun _ s' => s'.2.2.1 = s.2.2.1) s := by
  unfold requireConnected isConnected
  rw [Attempt.ensures_lift_bind, ensures_bind]
  refine (ensures_openSession?_silent s).weaken ?_
  rintro (_ | session) s' ⟨hlog, -⟩
  · exact hlog
  · exact hlog

/-- Retiring a session sends nothing. -/
theorem ensures_retireSession_silent (s : Scene ω) :
    Ensures (overWeb web rest depth) retireSession (fun _ s' => s'.2.2.1 = s.2.2.1) s := by
  unfold retireSession takeSession saveBookmark
  rw [ensures_bind, ensures_modifyGet]
  dsimp only
  cases s.1.link.session? with
  | none => rfl
  | some session =>
    rw [ensures_bind]
    refine (ensures_call (.driver (.lastBookmark session)) _ _).2 fun latest? s₁ hover => ?_
    have hlog := overWeb_silent (by exact trivial) hover
    rw [ensures_bind, ensures_modifyGet, ensures_bind]
    refine (ensures_call (.driver (.closeSession session)) _ _).2 fun closed s₂ hover => ?_
    have hlog := (overWeb_silent (by exact trivial) hover).trans hlog
    cases closed with
    | ok => exact hlog
    | error e =>
      dsimp only
      rw [ensures_bind]
      exact (ensures_call (.console (.warn .connection _)) _ _).2 fun reply s₃ hover =>
        (overWeb_silent (by exact trivial) hover).trans hlog

/-- What is sent to replace the session. -/
theorem ensures_reconnect_sent (s : Scene ω) :
    Ensures (overWeb web rest depth) reconnect.run (fun r s' => ∃ sent,
      s'.2.2.1 = s.2.2.1 ++ sent ∧ Renewing sent ∧ (r = .ok () → Tested sent)) s := by
  unfold reconnect
  rw [Attempt.ensures_get_bind]
  cases s.1.link.driver? with
  | none => exact ⟨[], (List.append_nil _).symm, .unasked, nofun⟩
  | some driver =>
    rw [Attempt.ensures_lift_bind]
    refine (ensures_retireSession_silent s).weaken fun bookmark? s₁ hlog₁ => ?_
    rw [Attempt.ensures_bind]
    refine (ensures_call (.driver (.verify driver)) _ s₁).2 fun verified s₂ hover => ?_
    rw [← hlog₁]
    rcases overWeb_verify hover with ⟨hlog₂, hfailed⟩ | ⟨asked, hlog₂, hasked⟩
    · rcases verified with e | _
      · exact ⟨[], by simpa using hlog₂, .unasked, nofun⟩
      · exact absurd rfl hfailed
    rcases verified with e | _
    · exact ⟨[asked], hlog₂, .asked hasked, nofun⟩
    refine (Attempt.ensures_get_bind _ _ s₂).2 ((Attempt.ensures_bind _ _ _ _).2 ?_)
    refine (ensures_call (.driver (.openSession driver _)) _ s₂).2 fun opened s₃ hover => ?_
    have hlog₃ := (overWeb_silent (by exact trivial) hover).trans hlog₂
    rcases opened with e | session
    · exact ⟨[asked], hlog₃, .asked hasked, nofun⟩
    refine (Attempt.ensures_lift_bind _ _ _ _).2 ?_
    unfold putSession
    rw [ensures_modify, Attempt.ensures_get_bind, Attempt.ensures_bind]
    refine (ensures_call (.driver (.run session _)) _ _).2 fun tested s₄ hover => ?_
    rcases overWeb_run hover with ⟨hlog₄, hfailed, -⟩ | ⟨test, hlog₄, htest, -⟩
    · rcases tested with e | outcome
      · exact ⟨[asked], hlog₄.trans hlog₃, .asked hasked, nofun⟩
      · exact absurd rfl (hfailed outcome)
    have hsent : s₄.2.2.1 = s₁.2.2.1 ++ [asked, test] := by
      rw [hlog₄, hlog₃]
      simp
    have htested : Tested [asked, test] := ⟨asked, test, _, rfl, hasked, htest⟩
    rcases tested with e | outcome
    · exact ⟨_, hsent, .tested htested, nofun⟩
    · exact ⟨_, hsent, .tested htested, fun _ => htested⟩

/-- What is sent for a query. -/
theorem ensures_runNow_sent (query : Query) (s : Scene ω) :
    Ensures (overWeb web rest depth) (runNow query).run (fun _ s' => ∃ sent,
      s'.2.2.1 = s.2.2.1 ++ sent ∧ Delivery query sent) s := by
  unfold runNow
  rw [Attempt.ensures_bind]
  refine (ensures_requireSession_silent s).weaken ?_
  rintro (e | session) s₁ ⟨hlog₁, hopen⟩
  · exact ⟨[], by simpa using hlog₁, .unsent⟩
  rw [← hlog₁]
  refine (Attempt.ensures_lift_bind _ _ _ _).2 ?_
  refine (ensures_call (.driver (.run session query)) _ s₁).2 fun reply s₂ hover => ?_
  -- without a second sending, whatever is done with the reply
  have honce (hreply : ¬ Expired reply) :
      ∃ sent, s₂.2.2.1 = s₁.2.2.1 ++ sent ∧ Delivery query sent := by
    rcases overWeb_run hover with ⟨hlog₂, -, -⟩ | ⟨e, hlog₂, hposts, -⟩
    · exact ⟨[], by simpa using hlog₂, .unsent⟩
    · exact ⟨[e], hlog₂, .once hposts⟩
  rcases reply with e | outcome
  · cases e with
    | sessionExpired m =>
      rcases overWeb_run hover with ⟨-, -, hunexpired⟩ | ⟨first, hlog₂, hfirst, hexpires⟩
      · exact absurd trivial (hunexpired (hopen session rfl))
      have hexpires := hexpires trivial
      refine (Attempt.ensures_bind _ _ _ _).2 ((Attempt.ensures_mapError _ _ _ _).2 ?_)
      refine (ensures_reconnect_sent s₂).weaken ?_
      rintro r s₃ ⟨between, hlog₃, hrenewing, htested⟩
      have hsent₃ : s₃.2.2.1 = s₁.2.2.1 ++ (first :: between) := by
        rw [hlog₃, hlog₂]
        simp
      rcases r with e | _
      · exact ⟨_, hsent₃, .renewing hfirst hexpires hrenewing⟩
      refine (Attempt.ensures_bind _ _ _ _).2 ((ensures_requireSession_silent s₃).weaken ?_)
      rintro (e | renewed) s₄ ⟨hlog₄, -⟩
      · exact ⟨_, hlog₄.trans hsent₃, .renewing hfirst hexpires hrenewing⟩
      refine (Attempt.ensures_bind _ _ _ _).2 ((Attempt.ensures_mapError _ _ _ _).2 ?_)
      refine (ensures_call (.driver (.run renewed query)) _ s₄).2 fun reply s₅ hover => ?_
      have hdelivery : ∃ sent, s₅.2.2.1 = s₁.2.2.1 ++ sent ∧ Delivery query sent := by
        rcases overWeb_run hover with ⟨hlog₅, -, -⟩ | ⟨second, hlog₅, hsecond, -⟩
        · exact ⟨_, hlog₅.trans (hlog₄.trans hsent₃), .renewing hfirst hexpires hrenewing⟩
        · refine ⟨first :: between ++ [second], ?_, .twice hfirst hexpires (htested rfl) hsecond⟩
          rw [hlog₅, hlog₄, hsent₃]
          simp
      rcases reply with e | outcome
      · exact hdelivery
      · exact hdelivery
    | _ => exact honce id
  · exact honce id

theorem ensures_evaluate_sent (query : Query) (s : Scene ω) :
    Ensures (overWeb web rest depth) (evaluate query).run (fun _ s' => ∃ sent,
      s'.2.2.1 = s.2.2.1 ++ sent ∧ Delivery query sent) s := by
  unfold evaluate
  rw [ensures_settle_bind, Attempt.ensures_bind]
  refine (ensures_requireConnected_silent _).weaken ?_
  rintro (e | _) s' hlog
  · exact ⟨[], by simpa using hlog, .unsent⟩
  · rw [← show s'.2.2.1 = s.2.2.1 from hlog]
    exact ensures_runNow_sent query s'

/-- In a transaction nothing is sent, and otherwise the query goes its way. -/
theorem ensures_runStatement_sent (query : Query) (s : Scene ω) :
    Ensures (overWeb web rest depth) (runStatement query).run (fun _ s' => ∃ sent,
      s'.2.2.1 = s.2.2.1 ++ sent ∧ Delivery query sent) s := by
  unfold runStatement
  rw [ensures_settle_bind, Attempt.ensures_bind]
  refine (ensures_requireConnected_silent _).weaken ?_
  rintro (e | _) s' hlog
  · exact ⟨[], by simpa using hlog, .unsent⟩
  have hlog : s'.2.2.1 = s.2.2.1 := hlog
  refine (Attempt.ensures_get_bind _ _ _).2 ?_
  split
  · exact ⟨[], by simpa using hlog, .unsent⟩
  · rw [← hlog]
    refine (Attempt.ensures_bind _ _ _ _).2 ((ensures_runNow_sent query s').weaken ?_)
    rintro (e | outcome) s'' hsent
    · exact hsent
    · exact hsent

/-! ## Retrying -/

/-- How a connection sends a query at once, with any driver and whatever the reset handle is used for. -/
structure Retries (depth : Nat) (c : Connection) (query : Query) : Prop where
  evaluate : ∀ events r c', Runs (handleUses depth) (evaluate query).run c events r c' →
    Retrying c query (turns events) r
  runStatement : c.transactionOpen = false → ∀ events r c',
    Runs (handleUses depth) (runStatement query).run c events r c' →
      ∃ sent : Except Failure Outcome, r = sent.map some ∧ Retrying c query (turns events) sent

/-- What is sent over a web meanwhile, whatever is answered and whenever interrupts arrive. -/
structure Delivers (web : Web ω) (rest : Environment ω) (depth : Nat) (s : Scene ω) (query : Query) :
    Prop where
  evaluate : ∃ sent, Delivery query sent ∧
    ((recorded web rest).exec interrupt depth (evaluate query).run s).2.2.2.1 = s.2.2.1 ++ sent
  runStatement : ∃ sent, Delivery query sent ∧
    ((recorded web rest).exec interrupt depth (runStatement query).run s).2.2.2.1 = s.2.2.1 ++ sent

/-- A query is sent at most twice: once more on a new session that is open, if and only if the server
answers that the session has expired. All other errors are those of the operation, as is whatever is
answered the second time. -/
theorem visited_retries {interactive : Bool} {log : List Event} {c : Connection}
    (h : Visited depth interactive log c) (query : Query) : Retries depth c query ∧
      ∀ (web : Web ω) (rest : Environment ω) (st : State) (traffic : List Exchange) (w : ω),
        Delivers web rest depth (c, st, traffic, w) query := by
  have hinstalled := h.rests.sound.installed
  refine ⟨⟨fun events r c' hrun => runs_evaluate hinstalled hrun, fun hclosed events r c' hrun => ?_⟩,
    fun web rest st traffic w => ⟨?_, ?_⟩⟩
  · rcases runs_runStatement hinstalled hrun with ⟨hopen, -, -⟩ | hsent
    · rw [hclosed] at hopen
      cases hopen
    · exact hsent
  · obtain ⟨sent, hsent, hdelivery⟩ := Environment.ensures_exec
      (@ensures_evaluate_sent _ web rest depth query (c, st, traffic, w))
    exact ⟨sent, hdelivery, hsent⟩
  · obtain ⟨sent, hsent, hdelivery⟩ := Environment.ensures_exec
      (@ensures_runStatement_sent _ web rest depth query (c, st, traffic, w))
    exact ⟨sent, hdelivery, hsent⟩

/-- A server that leads no more when it is sent the first request. -/
def deposed : Web Nat := fun request n =>
  { world := n + 1
    finish := fun w =>
      let body := match request.method, n with
        | .get, _ => "[]"
        | .post, 0 => "[[],[[\"Neo.ClientError.Cluster.NotALeader\",\"No longer a leader\"]],[]]"
        | .post, _ => "[[[]],[],[\"b\"]]"
      (.response ⟨200⟩ (some (Text.Utf8.bytes body)), w) }

/-- The query is sent, the session replaced, and the query sent again. -/
theorem retries_deposed :
    let run := replay Program.willing [.connect {}] { interactive := true }
    let opened := (recorded deposed untroubled).exec interrupt 0
      (connect { address := "http://[::1]" }).run ({ interactive := true }, {}, [], 1)
    let s : Scene Nat := (run.2, opened.2.2.1, [], 0)
    let query : Query := { text := "CREATE ();" }
    let sent := ((recorded deposed untroubled).exec interrupt 0 (evaluate query).run s).2.2.2.1
    Visited 0 true (run.1.flatMap Step.events) run.2 ∧
      sent.map (·.request.method) = [.post, .get, .post, .post] ∧ Retries 0 run.2 query ∧
      Delivers deposed untroubled 0 s query := by
  intro run opened s query sent
  have hvisited : Visited 0 true ([] ++ run.1.flatMap Step.events) run.2 :=
    visited_replay Program.willing [.connect {}] .new
  rw [List.nil_append] at hvisited
  obtain ⟨hretries, hdelivers⟩ := visited_retries hvisited query
  exact ⟨hvisited, by decide +kernel, hretries, hdelivers deposed untroubled _ [] 0⟩

end QueryShell.Connection
