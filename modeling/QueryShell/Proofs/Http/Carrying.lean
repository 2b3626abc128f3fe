import QueryShell.Proofs.Http.Bodies
import QueryShell.Proofs.Http.References
import QueryShell.Proofs.Http.Retrying

/-
The wire carries exactly the queue. A transaction is queued by operations and sent by a commit; whoever reads
the body of its one request finds the queries that were queued since the transaction was opened, none missing
and none of them twice, in their order. A query outside of a transaction is all that the body of its request
says.

`Ran` are the runs of a connection over a web from the start, with the operations that were run, and `queue`
reads off these alone what is to be sent.
-/
namespace QueryShell.Connection

open Program Http

variable {ω : Type} {web : Web ω} {rest : Environment ω} {depth : Nat} {s s₀ s' : Scene ω}

/-! ## Runs -/

/-- An operation that was run, with its result. -/
structure Done where
  op : Operation
  result : op.Result

/-- It opened a transaction. -/
def Done.opens (done : Done) : Bool :=
  (Step.operation done.op [] done.result).opens

/-- The query that it put into the queue. -/
def Done.queued (done : Done) : List Query :=
  (Step.operation done.op [] done.result).queued

/-- The queries that were queued since a transaction was opened last. -/
def queue (history : List Done) : List Query :=
  history.foldl (fun queries done => if done.opens then [] else queries ++ done.queued) []

/-- Operations one after the other. -/
def perform (web : Web ω) (rest : Environment ω) (depth : Nat) :
    List Operation → Scene ω → List Done × Scene ω
  | [], s => ([], s)
  | op :: ops, s =>
    let (result, t) := (recorded web rest).exec interrupt depth op.program s
    let (history, s') := perform web rest depth ops t
    (⟨op, result⟩ :: history, s')

/-- The queue of a connection is the one of its history. -/
structure Filled (history : List Done) (s : Scene ω) : Prop where
  coherent : Coherent s.1
  pending : ∀ queries, s.1.pending? = some queries → queries = queue history
  founded : Founded 0 s

/-- A step goes on with the queue, unless it opens a new one. -/
theorem Filled.step {history after : List Done} {step : Step} (h : Filled history s)
    (heffect : Effect s.1 step s'.1 ∨ Effect s.1.applyDiscard step s'.1)
    (hafter : queue after = if step.opens then [] else queue history ++ step.queued)
    (hfounded : Founded 0 s') : Filled after s' := by
  obtain ⟨settled, hcoherent, hsettled, heffect⟩ := exists_effect h.coherent heffect
  refine ⟨heffect.coherent hcoherent, fun queries hqueries => ?_, hfounded⟩
  rw [hafter]
  rcases heffect.pending hqueries with ⟨hopens, rfl⟩ | ⟨hopens, before, hbefore, rfl⟩
  · rw [if_pos hopens]
  · rw [if_neg (by simp [hopens]), h.pending before (hsettled before hbefore)]

/-- An operation was refused. -/
inductive Refused {α : Type} : Except Failure α → Prop where
  /-- The connection is in no state for it. -/
  | byConnection (refusal : Refusal) : Refused (.error (.refused refusal))
  /-- No request can be sent to the address. -/
  | byClient {url : Url} : url.isSendable = false →
      Refused (.error (.ofDriver (Fault.unsendable url.text).toError))

/-- What is sent of a queue: nothing if it is empty, and otherwise one request, which carries all of it and
the bookmark of the session. -/
inductive Dispatches (queries : List Query) (s : Scene ω) (log : List Exchange) : Prop where
  | nothing : queries = [] → log = s.2.2.1 → Dispatches queries s log
  | request {session : Driver.SessionRef} {bookmark? : Option Bookmark} {e : Exchange} : queries ≠ [] →
      s.1.link.session? = some session → s.2.1.bookmarks[session.number]? = some bookmark? →
      e.Carries queries bookmark? → log = s.2.2.1 ++ [e] → Dispatches queries s log

/-- Nothing but interrupts has happened to a scene, and to what is pending. -/
structure Waits (pending? : Option (List Query)) (s₀ s : Scene ω) : Prop extends Stirred s₀ s where
  pending : s.1.pending? = pending?
  founded : Founded 0 s

variable {pending? : Option (List Query)}

theorem Waits.interrupts (depth : Nat) (s : Scene ω) (h : Waits pending? s₀ s) :
    Ensures (overWeb web rest depth) interrupt (fun _ => Waits pending? s₀) s := by
  refine ensures_interrupts (fun call s hcall h => ?_) (fun s h => ?_) depth s h
  · obtain ⟨hstarted, hfinish⟩ := stirred_byHandle web rest hcall s
    obtain ⟨hgrows, hgrowing⟩ := recorded_grows web rest (refers_of_byHandle hcall s.2.1)
    exact ⟨⟨h.toStirred.trans hstarted, h.pending, h.founded.grows hgrows⟩, fun m hm =>
      ⟨hm.toStirred.trans (hfinish m), hm.pending, hm.founded.grows (hgrowing m.2)⟩⟩
  · have hlink : s.1.link.requestDiscard.session? = s.1.link.session? ∧
        s.1.link.requestDiscard.driver? = s.1.link.driver? := by
      unfold Link.requestDiscard
      split <;> exact ⟨rfl, rfl⟩
    exact ⟨h.toStirred.trans ⟨hlink.1, rfl, rfl, rfl⟩, h.pending,
      h.founded.note fun _ hdriver => hlink.2 ▸ hdriver⟩

/-- The look-up tells the session of the scene, if that is open. -/
theorem Waits.ensures_openSession? (h : Waits pending? s₀ s) :
    Ensures (overWeb web rest depth) openSession? (fun session? s' => Waits pending? s₀ s' ∧
      ∀ session, session? = some session →
        s₀.1.link.session? = some session ∧ IsOpen s' session) s := by
  have hwaits : Ensures (overWeb web rest depth) openSession? (fun session? s' => Waits pending? s₀ s' ∧
      ∀ session, session? = some session → s₀.1.link.session? = some session) s := by
    unfold openSession?
    rw [ensures_bind, ensures_get]
    cases hsession : s.1.link.session? with
    | none => exact ⟨h, nofun⟩
    | some session =>
      dsimp only
      rw [ensures_bind]
      refine (ensures_call (.driver (.isOpen session)) _ s).2 fun isOpen s' hover => ?_
      obtain ⟨-, hwaits⟩ := overWeb_replied_keeps Waits.interrupts rfl h hover
      refine ⟨hwaits, fun found hfound => ?_⟩
      cases isOpen with
      | false => cases hfound
      | true =>
        cases hfound
        exact h.session.symm.trans hsession
  refine (hwaits.and (ensures_openSession?_silent s)).weaken ?_
  rintro session? s' ⟨⟨hwaits, hsession⟩, -, hopen⟩
  exact ⟨hwaits, fun session hfound => ⟨hsession session hfound, hopen session hfound⟩⟩

theorem Waits.ensures_requireConnected (h : Waits pending? s₀ s) :
    Ensures (overWeb web rest depth) requireConnected.run
      (Attempt.Ends (fun _ => Waits pending? s₀) fun e _ => e = .refused .notConnected) s := by
  unfold requireConnected isConnected
  rw [Attempt.ensures_lift_bind, ensures_bind]
  refine h.ensures_openSession?.weaken ?_
  rintro (_ | session) s' ⟨hwaits, -⟩
  · exact rfl
  · exact hwaits

theorem Waits.ensures_requireSession (h : Waits pending? s₀ s) :
    Ensures (overWeb web rest depth) requireSession.run
      (Attempt.Ends (fun session s' => Waits pending? s₀ s' ∧ s₀.1.link.session? = some session ∧
        IsOpen s' session) fun e _ => e = .refused .notConnected) s := by
  unfold requireSession
  rw [Attempt.ensures_lift_bind]
  refine h.ensures_openSession?.weaken ?_
  rintro (_ | session) s' ⟨hwaits, hsession⟩
  · exact rfl
  · exact ⟨hwaits, hsession session rfl⟩

/-- Queries that are written on the open session are sent in one request, unless there was an interrupt or
the address takes none. -/
theorem Waits.ensures_write (h : Waits pending? s₀ s) {session : Driver.SessionRef}
    (hsession : s₀.1.link.session? = some session) (hopen : IsOpen s session) {query : Query}
    {queries : List Query} (hexact : ∀ q ∈ query :: queries, Exact q) :
    Ensures (overWeb web rest depth) (Program.driver (.write session (query :: queries)))
      (fun reply s' => reply = .error .interrupted ∨
        (∃ url : Url, url.isSendable = false ∧ reply = .error (Fault.unsendable url.text).toError) ∨
        Dispatches (query :: queries) s₀ s'.2.2.1) s := by
  refine (ensures_call (.driver (.write session (query :: queries))) _ s).2 fun reply s' hover => ?_
  have hstep := commit_step s.2.1 session.number (query :: queries)
  have hbegin : s.2.1.begin (.write session (query :: queries)) =
    s.2.1.commit session.number (query :: queries) := rfl
  rw [← hbegin] at hstep
  obtain ⟨used, hused, hisOpen⟩ := (Option.any_eq_true ..).1 hopen
  generalize hfirst : s.2.1.begin (.write session (query :: queries)) = step at hstep
  cases hstep with
  | unknown hunknown =>
    -- the session is one of those that are there, so its server is known
    have hserver := h.founded.sessions used (List.mem_of_getElem? hused)
    have hnone := List.getElem?_eq_none_iff.1 (hunknown used hused)
    omega
  | closed hsession' hclosed =>
    obtain rfl := Option.some.inj (hused.symm.trans hsession')
    rw [hclosed] at hisOpen
    cases hisOpen
  | interrupted => exact .inl (overWeb_replied hfirst hover).1
  | unsendable _ _ hunsendable => exact .inr (.inl ⟨_, hunsendable, (overWeb_replied hfirst hover).1⟩)
  | @sent used' server _ hsession' =>
    obtain ⟨m, answer, -, -, -, hlog⟩ := overWeb_exchange hfirst hover
    have hbookmark : s₀.2.1.bookmarks[session.number]? = some used'.bookmark? := by
      unfold State.bookmarks
      rw [← h.sessions, List.getElem?_map, hsession']
      rfl
    rw [h.log] at hlog
    exact .inr (.inr (.request (List.cons_ne_nil _ _) hsession hbookmark (carries_commit rfl hexact) hlog))

/-- A commit that is neither refused nor interrupted sends exactly the queue. -/
theorem Filled.ensures_commit {history : List Done} (h : Filled history s)
    (hexact : ∀ query ∈ queue history, Exact query) :
    Ensures (overWeb web rest depth) commit.run (fun r s' => ¬ Refused r → r ≠ .error .interrupted →
      Dispatches (queue history) s s'.2.2.1) s := by
  have hsettled : Waits s.1.applyDiscard.pending? s (s.1.applyDiscard, s.2) := by
    refine ⟨⟨applyDiscard_session? s.1, ?_, rfl, rfl⟩, rfl, h.founded.note fun driver => ?_⟩
    · unfold applyDiscard
      split <;> rfl
    · unfold applyDiscard
      split <;> exact id
  unfold commit takePending
  rw [ensures_settle_bind, Attempt.ensures_bind]
  refine hsettled.ensures_requireConnected.weaken ?_
  rintro (e | _) s₁ hwaits
  · obtain rfl : e = _ := hwaits
    exact fun hrefused => absurd (.byConnection _) hrefused
  have hwaits : Waits s.1.applyDiscard.pending? s s₁ := hwaits
  refine (Attempt.ensures_lift_bind _ _ _ _).2 ?_
  rw [ensures_modifyGet]
  cases hpending : s₁.1.pending? with
  | none => exact fun hrefused => absurd (.byConnection _) hrefused
  | some queries =>
    have hqueue := h.pending queries (applyDiscard_pending? (hwaits.pending.symm.trans hpending))
    have hdropped : Waits none s (s₁.1.dropTransaction, s₁.2) :=
      ⟨⟨hwaits.session, hwaits.bookmark, hwaits.sessions, hwaits.log⟩, rfl,
        hwaits.founded.note fun _ => id⟩
    rw [← hqueue] at hexact ⊢
    cases queries with
    | nil => exact fun _ _ => .nothing rfl hwaits.log
    | cons query queries =>
      refine (Attempt.ensures_bind _ _ _ _).2 (hdropped.ensures_requireSession.weaken ?_)
      rintro (e | session) s₂ hended
      · obtain rfl : e = _ := hended
        exact fun hrefused => absurd (.byConnection _) hrefused
      obtain ⟨hwaits, hsession, hopen⟩ := hended
      refine (Attempt.ensures_bind _ _ _ _).2 ((Attempt.ensures_mapError _ _ _ _).2 ?_)
      refine (hwaits.ensures_write hsession hopen hexact).weaken ?_
      rintro reply s₃ (rfl | ⟨url, hunsendable, rfl⟩ | hdispatches)
      · exact fun _ hinterrupted => absurd rfl hinterrupted
      · exact fun hrefused => absurd (.byClient hunsendable) hrefused
      · cases reply with
        | error e => exact fun _ _ => hdispatches
        | ok outcomes => exact fun _ _ => hdispatches

/-! ## Single queries -/

end QueryShell.Connection
