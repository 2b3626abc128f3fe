import QueryShell.Proofs.Connection.Handle
import QueryShell.Proofs.Connection.History
import QueryShell.Proofs.Http.Traffic
import QueryShell.Proofs.Program.Logs

/-
Causal chaining. Each request to commit queries carries the bookmarks that came back last, whatever
session they came back on: so the server runs the queries behind all transactions of this connection.

The bookmark moves from the live session to the connection when that session is retired, and on to the
next session. `Linked` says where it is at any time, also while there is no session because switching
to another database failed half-way.
-/
namespace QueryShell.Connection

open Program Http

variable {ω : Type} {web : Web ω} {rest : Environment ω} {depth : Nat}

/-- A connection and the world with its record. -/
abbrev Scene (ω : Type) := Connection × State × List Exchange × ω

/-- Calls are answered over a web, and interrupts may arrive meanwhile. -/
abbrev overWeb (web : Web ω) (rest : Environment ω) (depth : Nat) :
    Answers Connection (State × List Exchange × ω) :=
  performs (recorded web rest) interrupt depth

/-! ## Chains -/

/-- Each request to commit carries the bookmarks that came back last before it. -/
def Chained (log : List Exchange) : Prop :=
  ∀ before e after, log = before ++ e :: after → e.request.method = .post →
    Commits (latestBookmark? before) e.request

theorem chained_snoc {log : List Exchange} {e : Exchange} (h : Chained log)
    (he : e.request.method = .post → Commits (latestBookmark? log) e.request) :
    Chained (log ++ [e]) := by
  have hsnoc : Throughout (fun before e => e.request.method = .post →
      Commits (latestBookmark? before) e.request) (log ++ [e]) := throughout_snoc.2 ⟨h, he⟩
  exact hsnoc

/-! ## Interrupts -/

/-- What interrupts leave of a connection and the world while a call is under way. -/
structure Stirred (s s' : Scene ω) : Prop where
  session : s'.1.link.session? = s.1.link.session?
  bookmark : s'.1.bookmark? = s.1.bookmark?
  sessions : s'.2.1.sessions = s.2.1.sessions
  log : s'.2.2.1 = s.2.2.1

theorem Stirred.refl (s : Scene ω) : Stirred s s :=
  ⟨rfl, rfl, rfl, rfl⟩

theorem Stirred.trans {s t s' : Scene ω} (h₁ : Stirred s t) (h₂ : Stirred t s') : Stirred s s' :=
  ⟨h₂.session.trans h₁.session, h₂.bookmark.trans h₁.bookmark, h₂.sessions.trans h₁.sessions,
    h₂.log.trans h₁.log⟩

/-- A call of the handle does not get at the sessions, neither when it starts nor when it ends. -/
theorem stirred_byHandle (web : Web ω) (rest : Environment ω) {call : Call} (hcall : ByHandle call)
    (s : Scene ω) :
    Stirred s (s.1, (recorded web rest call s.2).world) ∧
      ∀ m : Scene ω, Stirred m (m.1, ((recorded web rest call s.2).finish m.2).2) := by
  obtain ⟨c, st, log, w⟩ := s
  unfold ByHandle at hcall
  split at hcall
  · rename_i session
    have hbegin : ∃ st', st.begin (.resetSession session) = .replied (.ok ()) st' ∧
        st'.sessions = st.sessions := by
      unfold State.begin
      dsimp only
      cases st.sessions[session.number]? with
      | none => exact ⟨_, rfl, rfl⟩
      | some s => exact ⟨_, rfl, rfl⟩
    obtain ⟨st', hbegin, hsessions⟩ := hbegin
    show Stirred _ (c, (recordCall web (.resetSession session) (st, log, w)).world) ∧
      ∀ m : Scene ω, Stirred m
        (m.1, ((recordCall web (.resetSession session) (st, log, w)).finish m.2).2)
    rw [recordCall_replied web hbegin]
    exact ⟨⟨rfl, rfl, hsessions, rfl⟩, fun m => .refl m⟩
  · exact ⟨⟨rfl, rfl, rfl, rfl⟩, fun m => .refl m⟩
  · exact ⟨⟨rfl, rfl, rfl, rfl⟩, fun m => .refl m⟩
  · exact ⟨⟨rfl, rfl, rfl, rfl⟩, fun m => ⟨rfl, rfl, rfl, rfl⟩⟩
  · cases hcall

/-- What the calls of the handle and its request keep, interrupts keep, however deep they arrive inside
each other. -/
theorem ensures_interrupts {holds : Scene ω → Prop}
    (hcalls : ∀ call s, ByHandle call → holds s →
      holds (s.1, (recorded web rest call s.2).world) ∧
        ∀ m : Scene ω, holds m → holds (m.1, ((recorded web rest call s.2).finish m.2).2))
    (hrequest : ∀ s : Scene ω, holds s → holds ({ s.1 with link := s.1.link.requestDiscard }, s.2))
    (depth : Nat) (s : Scene ω) (h : holds s) :
    Ensures (overWeb web rest depth) interrupt (fun _ => holds) s := by
  induction depth using Nat.strongRecOn generalizing s with
  | ind depth ih =>
    refine ensures_interrupt ?_ (hrequest s h)
    rintro call s hcall h reply ⟨c', world'⟩ hperforms
    obtain ⟨hstarted, hfinish⟩ := hcalls call s hcall.byHandle h
    obtain ⟨m, hm, hreply, rfl⟩ := Environment.performs_cases ih hperforms hstarted
    have hfinished := hfinish m hm
    rwa [← hreply] at hfinished

/-- Interrupts touch neither the bookmarks nor the record. -/
theorem ensures_stirred {s₀ s : Scene ω} (h : Stirred s₀ s) :
    Ensures (overWeb web rest depth) interrupt (fun _ => Stirred s₀) s := by
  refine ensures_interrupts (fun call s hcall h => ?_) (fun s h => ?_) depth s h
  · obtain ⟨hstarted, hfinish⟩ := stirred_byHandle web rest hcall s
    exact ⟨h.trans hstarted, fun m hm => hm.trans (hfinish m)⟩
  · have hlink : s.1.link.requestDiscard.session? = s.1.link.session? := by
      unfold Link.requestDiscard
      split <;> rfl
    exact h.trans ⟨hlink, rfl, rfl, rfl⟩

/-- What an environment does to the connection and the sessions while it performs a call. -/
theorem overWeb_cases {call : Call} {s s' : Scene ω} {reply : call.Reply}
    (h : overWeb web rest depth call s reply s') :
    ∃ m, Stirred (s.1, (recorded web rest call s.2).world) m ∧
      (reply, s'.2) = (recorded web rest call s.2).finish m.2 ∧ s'.1 = m.1 :=
  Environment.performs_cases (fun _ _ _ => ensures_stirred) h (.refl _)

/-! ## Where the bookmark is -/

/-- The bookmark that came back last is the session's, or without a session the connection's. -/
structure Linked (s : Scene ω) : Prop where
  session : ∀ session, s.1.link.session? = some session →
    s.2.1.bookmarks[session.number]? = some (latestBookmark? s.2.2.1)
  idle : s.1.link.session? = none → s.1.bookmark? = latestBookmark? s.2.2.1
  /-- The connection makes no bookmark up. -/
  kept : latestBookmark? s.2.2.1 = none → s.1.bookmark? = none
  chained : Chained s.2.2.1

variable {s s' : Scene ω}

/-- What else changes of a connection does not matter. -/
theorem Linked.note (h : Linked s) {c : Connection} (hsession : c.link.session? = s.1.link.session?)
    (hbookmark : c.bookmark? = s.1.bookmark?) : Linked (c, s.2) := by
  refine ⟨?_, ?_, ?_, h.chained⟩
  · rw [hsession]
    exact h.session
  · rw [hsession, hbookmark]
    exact h.idle
  · rw [hbookmark]
    exact h.kept

/-- Nothing happened to the bookmarks. -/
structure Quiet (s s' : Scene ω) : Prop where
  session : s'.1.link.session? = s.1.link.session?
  bookmark : s'.1.bookmark? = s.1.bookmark?
  bookmarks : s'.2.1.bookmarks = s.2.1.bookmarks
  latest : latestBookmark? s'.2.2.1 = latestBookmark? s.2.2.1
  chained : Chained s.2.2.1 → Chained s'.2.2.1

theorem Linked.quiet (h : Linked s) (hquiet : Quiet s s') : Linked s' := by
  refine ⟨?_, ?_, ?_, hquiet.chained h.chained⟩
  · rw [hquiet.session, hquiet.bookmarks, hquiet.latest]
    exact h.session
  · rw [hquiet.session, hquiet.bookmark, hquiet.latest]
    exact h.idle
  · rw [hquiet.bookmark, hquiet.latest]
    exact h.kept

theorem Stirred.quiet (h : Stirred s s') : Quiet s s' := by
  refine ⟨h.session, h.bookmark, ?_, by rw [h.log], by rw [h.log]; exact id⟩
  unfold State.bookmarks
  rw [h.sessions]

/-! ### Calls -/

section Kept

variable {holds : Scene ω → Prop} (hkeeps : ∀ depth s, holds s →
  Ensures (overWeb web rest depth) interrupt (fun _ => holds) s)

include hkeeps

/-- A call that is answered at once, behind which interrupts arrive. -/
theorem overWeb_replied_keeps {c : Driver.Call} {r reply : c.Reply} {st' : State}
    (hbegin : s.2.1.begin c = .replied r st') (hstart : holds (s.1, st', s.2.2))
    (h : overWeb web rest depth (.driver c) s reply s') : reply = r ∧ holds s' := by
  have hstarted : (recorded web rest (.driver c) s.2).world = (st', s.2.2) ∧
      ∀ world, (recorded web rest (.driver c) s.2).finish world = (r, world) := by
    have hrecorded := recordCall_replied web hbegin s.2.2.1 s.2.2.2
    exact ⟨congrArg Started.world hrecorded, fun world => congrFun (congrArg Started.finish hrecorded) world⟩
  obtain ⟨hworld, hfinish⟩ := hstarted
  rw [← hworld] at hstart
  obtain ⟨m, hm, hreply, hstate⟩ := Environment.performs_cases (fun d _ => hkeeps d) h hstart
  obtain ⟨rfl, hworld'⟩ := Prod.mk.inj (hreply.trans (hfinish m.2))
  obtain rfl : s' = m := Prod.ext hstate hworld'
  exact ⟨rfl, hm⟩

/-- A call that sends a request, while which interrupts arrive. -/
theorem overWeb_exchange_keeps {c : Driver.Call} {reply : c.Reply} {request : Request}
    {conclude : Answer → State → c.Reply × State} (hbegin : s.2.1.begin c = .exchange request conclude)
    (hstart : ∀ w, holds (s.1, s.2.1, s.2.2.1, w))
    (h : overWeb web rest depth (.driver c) s reply s') :
    ∃ m answer, holds m ∧ s'.1 = m.1 ∧ (reply, s'.2.1) = conclude answer m.2.1 ∧
      s'.2.2.1 = m.2.2.1 ++ [m.2.1.exchanged c request answer] := by
  obtain ⟨conn, st, log, w⟩ := s
  have hrecorded := recordCall_exchange web hbegin log w
  have hstarted : holds (conn, (recorded web rest (.driver c) (st, log, w)).world) := by
    show holds (conn, (recordCall web c (st, log, w)).world)
    rw [hrecorded]
    exact hstart _
  obtain ⟨m, hm, hreply, hstate⟩ := Environment.performs_cases (fun d _ => hkeeps d) h hstarted
  change (reply, s'.2) = (recordCall web c (st, log, w)).finish m.2 at hreply
  rw [hrecorded] at hreply
  obtain ⟨rfl, hworld⟩ := Prod.mk.inj hreply
  refine ⟨m, ((web request w).finish m.2.2.2).1, hm, hstate, ?_, ?_⟩
  · rw [hworld]
  · rw [hworld]

end Kept

theorem overWeb_replied {c : Driver.Call} {r reply : c.Reply} {st' : State}
    (hbegin : s.2.1.begin c = .replied r st')
    (h : overWeb web rest depth (.driver c) s reply s') :
    reply = r ∧ Stirred (s.1, st', s.2.2) s' :=
  overWeb_replied_keeps (fun _ _ => ensures_stirred) hbegin (.refl _) h

theorem overWeb_exchange {c : Driver.Call} {reply : c.Reply} {request : Request}
    {conclude : Answer → State → c.Reply × State} (hbegin : s.2.1.begin c = .exchange request conclude)
    (h : overWeb web rest depth (.driver c) s reply s') :
    ∃ m answer, Stirred s m ∧ s'.1 = m.1 ∧ (reply, s'.2.1) = conclude answer m.2.1 ∧
      s'.2.2.1 = s.2.2.1 ++ [m.2.1.exchanged c request answer] := by
  obtain ⟨m, answer, hm, hstate, hreply, hlog⟩ :=
    overWeb_exchange_keeps (fun _ _ => ensures_stirred) hbegin (fun _ => ⟨rfl, rfl, rfl, rfl⟩) h
  exact ⟨m, answer, hm, hstate, hreply, hm.log ▸ hlog⟩

/-- Queries were sent on a session with its bookmark, and what came back is its bookmark now. -/
structure SentOn (used : Driver.SessionRef) (s s' : Scene ω) : Prop where
  session : s'.1.link.session? = s.1.link.session?
  bookmark : s'.1.bookmark? = s.1.bookmark?
  exchange : ∃ bookmark? e, s.2.1.bookmarks[used.number]? = some bookmark? ∧
    Commits bookmark? e.request ∧ s'.2.2.1 = s.2.2.1 ++ [e] ∧
    s'.2.1.bookmarks = e.keep used.number s.2.1.bookmarks

/-- What a call does that opens no session. -/
theorem overWeb_effect {c : Driver.Call} (hopen : ∀ driver config, c ≠ .openSession driver config)
    {reply : c.Reply} (h : overWeb web rest depth (.driver c) s reply s') :
    Quiet s s' ∨ ∃ session, committing? c = some session ∧ SentOn session s s' := by
  have htreats := treats_begin s.2.1 c
  generalize hbegin : s.2.1.begin c = step at htreats
  cases htreats with
  | opens => exact absurd rfl (hopen _ _)
  | replies hbookmarks =>
    obtain ⟨-, hstirred⟩ := overWeb_replied hbegin h
    have hquiet := hstirred.quiet
    exact .inl ⟨hquiet.session, hquiet.bookmark, hquiet.bookmarks.trans hbookmarks, hquiet.latest,
      hquiet.chained⟩
  | @looks _ request conclude hmethod hconclude =>
    obtain ⟨m, answer, hm, hstate, hreply, hlog⟩ := overWeb_exchange hbegin h
    have hst : s'.2.1 = (conclude answer m.2.1).2 := congrArg Prod.snd hreply
    refine .inl ⟨hstate ▸ hm.session, hstate ▸ hm.bookmark, ?_, ?_, fun hchained => ?_⟩
    · rw [hst, hconclude]
      exact hm.quiet.bookmarks
    · rw [hlog, latestBookmark?_snoc, Exchange.bookmark?_of_get hmethod]
      rfl
    · rw [hlog]
      refine chained_snoc hchained fun hpost => ?_
      cases hmethod.symm.trans hpost
  | @commits _ session bookmark? request conclude hcommitting hbookmark hrequest hconclude =>
    obtain ⟨m, answer, hm, hstate, hreply, hlog⟩ := overWeb_exchange hbegin h
    have hst : s'.2.1 = (conclude answer m.2.1).2 := congrArg Prod.snd hreply
    refine .inr ⟨session, hcommitting, hstate ▸ hm.session, hstate ▸ hm.bookmark, bookmark?, _,
      hbookmark, hrequest, hlog, ?_⟩
    rw [hst, hconclude answer m.2.1 hm.sessions, hm.quiet.bookmarks]

/-- A call that neither opens a session nor commits. -/
def Idle : Call → Prop
  | .driver (.openSession _ _) => False
  | .driver c => committing? c = none
  | _ => True

theorem quiet_of_idle {call : Call} (hidle : Idle call) {reply : call.Reply}
    (h : overWeb web rest depth call s reply s') : Quiet s s' := by
  cases call with
  | driver c =>
    have hopen : ∀ driver config, c ≠ .openSession driver config := by
      rintro driver config rfl
      cases hidle
    rcases overWeb_effect hopen h with hquiet | ⟨session, hcommitting, -⟩
    · exact hquiet
    · unfold Idle at hidle
      split at hidle
      · cases hidle
      · rename_i heq
        cases heq
        rw [hidle] at hcommitting
        cases hcommitting
      · rename_i heq
        exact absurd rfl (heq _)
  | _ =>
    obtain ⟨m, hm, hreply, hstate⟩ := overWeb_cases h
    obtain ⟨c, st, log, w⟩ := s
    obtain ⟨c', world'⟩ := s'
    obtain ⟨-, rfl⟩ := Prod.mk.inj hreply
    obtain rfl : c' = m.1 := hstate
    exact Stirred.quiet ⟨hm.session, hm.bookmark, hm.sessions, hm.log⟩

/-- Committing on the session that is there keeps it linked. -/
theorem Linked.sentOn (h : Linked s) {session : Driver.SessionRef}
    (hsession : s.1.link.session? = some session) (hsent : SentOn session s s') : Linked s' := by
  obtain ⟨bookmark?, e, hbookmark, hcommits, hlog, hbookmarks⟩ := hsent.exchange
  have hlatest := h.session session hsession
  obtain rfl : bookmark? = latestBookmark? s.2.2.1 := Option.some.inj (hbookmark.symm.trans hlatest)
  have hthere : s'.1.link.session? = some session := hsent.session.trans hsession
  refine ⟨fun other hother => ?_, fun hnone => ?_, fun hnone => ?_, ?_⟩
  · obtain rfl : session = other := Option.some.inj (hthere.symm.trans hother)
    rw [hbookmarks, hlog, latestBookmark?_snoc]
    unfold Exchange.keep
    cases e.bookmark? with
    | none => exact hlatest
    | some latest => simp [hlatest]
  · cases hthere.symm.trans hnone
  · rw [hsent.bookmark]
    refine h.kept ?_
    rw [hlog, latestBookmark?_snoc] at hnone
    exact (Option.or_eq_none_iff.1 hnone).2
  · rw [hlog]
    exact chained_snoc h.chained fun _ => hcommits

/-! ## Operations -/

theorem Linked.ensures_idle (h : Linked s) (call : Call) (hidle : Idle call) :
    Ensures (overWeb web rest depth) (Program.call call) (fun _ => Linked) s :=
  (Program.ensures_call call _ s).2 fun _ _ hover => h.quiet (quiet_of_idle hidle hover)

/-- Queries are sent on the session that is there. -/
theorem Linked.ensures_send (h : Linked s) {c : Driver.Call} {session : Driver.SessionRef}
    (hcommitting : committing? c = some session) (hsession : s.1.link.session? = some session) :
    Ensures (overWeb web rest depth) (Program.driver c) (fun _ => Linked) s := by
  refine (Program.ensures_call (.driver c) _ s).2 fun reply s' hover => ?_
  have hopen : ∀ driver config, c ≠ .openSession driver config := by
    rintro driver config rfl
    cases hcommitting
  rcases overWeb_effect hopen hover with hquiet | ⟨used, hused, hsent⟩
  · exact h.quiet hquiet
  · obtain rfl : session = used := Option.some.inj (hcommitting.symm.trans hused)
    exact h.sentOn hsession hsent

/-- The look-up tells which session is there. -/
theorem Linked.ensures_openSession? (h : Linked s) :
    Ensures (overWeb web rest depth) openSession? (fun session? s' => Linked s' ∧
      ∀ session, session? = some session → s'.1.link.session? = some session) s := by
  unfold openSession?
  rw [ensures_bind, ensures_get]
  cases hsession : s.1.link.session? with
  | none => exact ⟨h, nofun⟩
  | some session =>
    dsimp only
    rw [ensures_bind]
    refine (ensures_call (.driver (.isOpen session)) _ s).2 fun isOpen s' hover => ?_
    have hquiet := quiet_of_idle (by exact rfl) hover
    refine ⟨h.quiet hquiet, fun found hfound => ?_⟩
    cases isOpen with
    | false => cases hfound
    | true =>
      cases hfound
      exact hquiet.session.trans hsession

theorem Linked.ensures_isConnected (h : Linked s) :
    Ensures (overWeb web rest depth) isConnected (fun _ => Linked) s := by
  unfold isConnected
  rw [ensures_bind]
  exact h.ensures_openSession?.weaken fun _ _ h => h.1

theorem Linked.ensures_requireConnected (h : Linked s) :
    Ensures (overWeb web rest depth) requireConnected.run (fun _ => Linked) s := by
  unfold requireConnected
  rw [Attempt.ensures_lift_bind]
  refine h.ensures_isConnected.weaken fun connected s h => ?_
  cases connected with
  | false => exact h
  | true => exact h

theorem Linked.ensures_requireSession (h : Linked s) :
    Ensures (overWeb web rest depth) requireSession.run (fun r s' => Linked s' ∧
      ∀ session, r = .ok session → s'.1.link.session? = some session) s := by
  unfold requireSession
  rw [Attempt.ensures_lift_bind]
  refine h.ensures_openSession?.weaken fun session? s h => ?_
  cases session? with
  | none => exact ⟨h.1, nofun⟩
  | some session =>
    refine ⟨h.1, fun found hfound => ?_⟩
    cases hfound
    exact h.2 session rfl

/-- The session was retired; its bookmark is in hand, and with the connection. -/
structure Bare (bookmark? : Option Bookmark) (s : Scene ω) : Prop where
  linked : Linked s
  session : s.1.link.session? = none
  latest : latestBookmark? s.2.2.1 = bookmark?

variable {bookmark? : Option Bookmark}

theorem Bare.quiet (h : Bare bookmark? s) (hquiet : Quiet s s') : Bare bookmark? s' :=
  ⟨h.linked.quiet hquiet, hquiet.session.trans h.session, hquiet.latest.trans h.latest⟩

theorem Bare.ensures_idle (h : Bare bookmark? s) (call : Call) (hidle : Idle call) :
    Ensures (overWeb web rest depth) (Program.call call) (fun _ => Bare bookmark?) s :=
  (Program.ensures_call call _ s).2 fun _ _ hover => h.quiet (quiet_of_idle hidle hover)

/-- A session tells its own bookmark. -/
theorem lastBookmark_reply {st : State} {session : Driver.SessionRef}
    (h : st.bookmarks[session.number]? = some bookmark?) :
    st.begin (.lastBookmark session) = .replied bookmark? st := by
  unfold State.bookmarks at h
  rw [List.getElem?_map] at h
  obtain ⟨s, hs, rfl⟩ := Option.map_eq_some_iff.1 h
  show Step.replied ((st.sessions[session.number]?).bind (·.bookmark?)) st = _
  rw [hs]
  rfl

theorem Linked.ensures_retireSession (h : Linked s) :
    Ensures (overWeb web rest depth) retireSession Bare s := by
  unfold retireSession takeSession saveBookmark
  rw [ensures_bind, ensures_modifyGet]
  dsimp only
  cases hsession : s.1.link.session? with
  | none =>
    have hidle := h.idle hsession
    exact ⟨⟨nofun, fun _ => hidle, h.kept, h.chained⟩, rfl, hidle.symm⟩
  | some session =>
    rw [ensures_bind]
    refine (ensures_call (.driver (.lastBookmark session)) _ _).2 fun latest? s' hover => ?_
    have hreply := lastBookmark_reply (h.session session hsession)
    obtain ⟨rfl, hstirred⟩ := overWeb_replied (by exact hreply) hover
    have hquiet := hstirred.quiet
    have hlatest : latestBookmark? s'.2.2.1 = latestBookmark? s.2.2.1 := hquiet.latest
    -- the connection's own bookmark only counts when nothing came back yet, and then there is none
    have hsaved : (latestBookmark? s.2.2.1).or s'.1.bookmark? = latestBookmark? s.2.2.1 := by
      cases hcame : latestBookmark? s.2.2.1 with
      | none => exact hquiet.bookmark.trans (h.kept hcame)
      | some bookmark => rfl
    rw [ensures_bind, ensures_modifyGet, ensures_bind, hsaved]
    have hbare : Bare (latestBookmark? s.2.2.1)
        ({ s'.1 with bookmark? := latestBookmark? s.2.2.1 }, s'.2) :=
      ⟨⟨fun other hother => (by cases hquiet.session.symm.trans hother), fun _ => hlatest.symm,
        fun hnone => hlatest.symm.trans hnone, hquiet.chained h.chained⟩, hquiet.session, hlatest⟩
    refine (hbare.ensures_idle (.driver (.closeSession session)) rfl).weaken ?_
    intro reply s' hbare
    cases reply with
    | ok => exact hbare
    | error e =>
      dsimp only
      rw [ensures_bind]
      exact hbare.ensures_idle (.console (.warn .connection _)) trivial

/-- A new session takes the bookmark over. -/
theorem Bare.ensures_openSession (h : Bare bookmark? s) (driver : Driver.Ref) (config : SessionConfig)
    (hconfig : config.bookmark = bookmark?) :
    Ensures (overWeb web rest depth) (Program.driver (.openSession driver config)) (fun r s' =>
      ∃ session, r = .ok session ∧
        Linked ({ s'.1 with link := { s'.1.link with session? := some session } }, s'.2)) s := by
  refine (Program.ensures_call (.driver (.openSession driver config)) _ s).2 fun reply s' hover => ?_
  obtain ⟨rfl, hstirred⟩ := overWeb_replied rfl hover
  have hquiet := hstirred.quiet
  have hopened : s'.2.1.bookmarks = s.2.1.bookmarks ++ [config.bookmark] :=
    hquiet.bookmarks.trans List.map_append
  have hlatest : latestBookmark? s'.2.2.1 = config.bookmark :=
    hquiet.latest.trans (h.latest.trans hconfig.symm)
  refine ⟨_, rfl, fun session hsession => ?_, nofun, fun hnone => ?_, hquiet.chained h.linked.chained⟩
  · cases hsession
    have hlength : s.2.1.sessions.length = s.2.1.bookmarks.length :=
      (List.length_map _).symm
    rw [hopened, hlatest, hlength]
    exact List.getElem?_concat_length
  · exact hquiet.bookmark.trans (h.linked.kept (hquiet.latest.symm.trans hnone))

theorem Linked.ensures_reconnect (h : Linked s) :
    Ensures (overWeb web rest depth) reconnect.run (fun _ => Linked) s := by
  unfold reconnect
  rw [Attempt.ensures_get_bind]
  cases s.1.link.driver? with
  | none => exact h
  | some driver =>
    rw [Attempt.ensures_lift_bind]
    refine h.ensures_retireSession.weaken fun bookmark? s h => ?_
    rw [Attempt.ensures_bind]
    refine (h.ensures_idle (.driver (.verify driver)) rfl).weaken ?_
    rintro (e | _) s h
    · exact h.linked
    refine (Attempt.ensures_get_bind _ _ s).2 ?_
    rw [Attempt.ensures_bind]
    refine (h.ensures_openSession driver (sessionConfig s.1.active bookmark?) rfl).weaken ?_
    rintro _ s ⟨session, rfl, hlinked⟩
    refine (Attempt.ensures_lift_bind _ _ _ _).2 ?_
    unfold putSession
    rw [ensures_modify, Attempt.ensures_get_bind, Attempt.ensures_bind]
    refine (hlinked.ensures_send (c := .run session (probe s.1.active)) rfl rfl).weaken ?_
    rintro (e | outcome) s h
    · exact h
    · exact h.note rfl rfl

theorem Linked.settled (h : Linked s) : Linked (s.1.applyDiscard, s.2) := by
  unfold applyDiscard
  split
  · exact h.note rfl rfl
  · exact h

theorem Linked.activate (h : Linked s) (name : String) :
    Linked ({ s.1 with active := name }, s.2) :=
  h.note rfl rfl

theorem Linked.putDriver (h : Linked s) (driver : Driver.Ref) :
    Linked ({ s.1 with link := { s.1.link with driver? := some driver } }, s.2) :=
  h.note rfl rfl

/-- Only what fails to connect may lose the bookmark. -/
theorem Linked.ensures_connect (h : Linked s) (endpoint : Endpoint) :
    Ensures (overWeb web rest depth) (connect endpoint).run (fun r s' => r = .ok () → Linked s') s := by
  unfold connect
  rw [ensures_settle_bind, Attempt.ensures_lift_bind]
  refine h.settled.ensures_isConnected.weaken fun connected s h => ?_
  cases connected with
  | true => exact nofun
  | false =>
    refine (Attempt.ensures_modify_bind _ _ _ _).2 ?_
    unfold establish
    rw [Attempt.ensures_lift_bind, Attempt.ensures_bind]
    refine ((h.activate endpoint.database).ensures_idle (.driver (.openDriver endpoint))
      rfl).weaken ?_
    have hfailed : ∀ (source : Driver.Error) (s : Scene ω), Ensures (overWeb web rest depth)
        (do throw (.ofTransport source (← Attempt.lift tearDown)) :
          Attempt Connection Failure Unit).run
        (fun r s' => r = .ok () → Linked s') s := by
      intro source s
      rw [Attempt.ensures_lift_bind]
      exact ensures_always (fun _ _ => nofun) s
    rintro (e | driver) s h
    · exact hfailed e s
    refine (Attempt.ensures_lift_bind _ _ _ _).2 ?_
    unfold Connection.putDriver
    rw [ensures_modify]
    refine (h.putDriver driver).ensures_reconnect.weaken ?_
    rintro (e | _) s h
    · exact hfailed e s
    · exact fun _ => h

theorem Linked.ensures_switchDatabase (h : Linked s) (name : String) :
    Ensures (overWeb web rest depth) (switchDatabase name).run (fun _ => Linked) s := by
  unfold switchDatabase Connection.activate
  rw [ensures_settle_bind, Attempt.ensures_get_bind]
  have hsettled := h.settled
  split
  · exact hsettled
  refine (Attempt.ensures_lift_bind _ _ _ _).2 ?_
  rw [ensures_modifyGet, Attempt.ensures_lift_bind]
  refine (hsettled.activate name).ensures_isConnected.weaken fun connected s h => ?_
  cases connected with
  | false => exact h
  | true =>
    refine (Attempt.ensures_lift_bind _ _ _ _).2 (h.ensures_reconnect.weaken ?_)
    rintro (source | _) s h
    · refine (Attempt.ensures_get_bind _ _ _).2 ?_
      split
      · refine (Attempt.ensures_lift_bind _ _ _ _).2 ?_
        rw [ensures_modifyGet, Attempt.ensures_lift_bind]
        refine (h.activate _).ensures_reconnect.weaken ?_
        rintro (e | _) s h
        · exact h
        · exact h
      · exact h
    · exact h

/-- What operations on an open session start with. -/
theorem Linked.ensures_connected {α : Type} {f : Unit → Attempt Connection Failure α} (h : Linked s)
    (hf : ∀ s, Linked s → Ensures (overWeb web rest depth) (f ()).run (fun _ => Linked) s) :
    Ensures (overWeb web rest depth) (settle >>= fun _ => requireConnected >>= f).run
      (fun _ => Linked) s := by
  rw [ensures_settle_bind, Attempt.ensures_bind]
  refine h.settled.ensures_requireConnected.weaken ?_
  rintro (e | _) s h
  · exact h
  · exact hf s h

theorem Linked.ensures_begin (h : Linked s) :
    Ensures (overWeb web rest depth) begin.run (fun _ => Linked) s := by
  refine h.ensures_connected fun s h => ?_
  rw [Attempt.ensures_get_bind]
  split
  · exact h
  · exact h.note rfl rfl

theorem Linked.ensures_commit (h : Linked s) :
    Ensures (overWeb web rest depth) commit.run (fun _ => Linked) s := by
  refine h.ensures_connected fun s h => ?_
  unfold takePending
  rw [Attempt.ensures_lift_bind, ensures_modifyGet]
  cases s.1.pending? with
  | none => exact h
  | some queries =>
    have hdropped : Linked (s.1.dropTransaction, s.2) := h.note rfl rfl
    cases queries with
    | nil => exact hdropped
    | cons query queries =>
      refine (Attempt.ensures_bind _ _ _ _).2 (hdropped.ensures_requireSession.weaken ?_)
      rintro (e | session) s ⟨h, hsession⟩
      · exact h
      refine (Attempt.ensures_bind _ _ _ _).2 ((Attempt.ensures_mapError _ _ _ _).2 ?_)
      refine (h.ensures_send (c := .write session (query :: queries)) rfl
        (hsession session rfl)).weaken ?_
      rintro (e | outcomes) s h
      · exact h
      · exact h.note rfl rfl

theorem Linked.ensures_rollback (h : Linked s) :
    Ensures (overWeb web rest depth) rollback.run (fun _ => Linked) s := by
  refine h.ensures_connected fun s h => ?_
  unfold takePending
  rw [Attempt.ensures_lift_bind, ensures_modifyGet]
  cases s.1.pending? with
  | none => exact h
  | some queries => exact h.note rfl rfl

theorem Linked.ensures_runNow (h : Linked s) (query : Query) :
    Ensures (overWeb web rest depth) (runNow query).run (fun _ => Linked) s := by
  unfold runNow
  rw [Attempt.ensures_bind]
  refine h.ensures_requireSession.weaken ?_
  rintro (e | session) s ⟨h, hsession⟩
  · exact h
  refine (Attempt.ensures_lift_bind _ _ _ _).2 ?_
  refine (h.ensures_send (c := .run session query) rfl (hsession session rfl)).weaken ?_
  rintro (e | outcome) s h
  · cases e with
    | sessionExpired message =>
      refine (Attempt.ensures_bind _ _ _ _).2 ((Attempt.ensures_mapError _ _ _ _).2 ?_)
      refine h.ensures_reconnect.weaken ?_
      rintro (e | _) s h
      · exact h
      refine (Attempt.ensures_bind _ _ _ _).2 (h.ensures_requireSession.weaken ?_)
      rintro (e | session) s ⟨h, hsession⟩
      · exact h
      refine (Attempt.ensures_bind _ _ _ _).2 ((Attempt.ensures_mapError _ _ _ _).2 ?_)
      refine (h.ensures_send (c := .run session query) rfl (hsession session rfl)).weaken ?_
      rintro (e | outcome) s h
      · exact h
      · exact h.note rfl rfl
    | _ => exact h
  · exact h.note rfl rfl

theorem Linked.ensures_runStatement (h : Linked s) (query : Query) :
    Ensures (overWeb web rest depth) (runStatement query).run (fun _ => Linked) s := by
  refine h.ensures_connected fun s h => ?_
  rw [Attempt.ensures_get_bind]
  split
  · exact h.note rfl rfl
  · refine (Attempt.ensures_bind _ _ _ _).2 ((h.ensures_runNow query).weaken ?_)
    rintro (e | outcome) s h
    · exact h
    · exact h

theorem Linked.ensures_evaluate (h : Linked s) (query : Query) :
    Ensures (overWeb web rest depth) (evaluate query).run (fun _ => Linked) s := by
  refine h.ensures_connected fun s h => ?_
  exact h.ensures_runNow query

/-! ### The reset handle -/

theorem idle_of_byHandle {call : Call} (h : ByHandle call) : Idle call := by
  unfold ByHandle at h
  split at h
  · rfl
  · rfl
  · rfl
  · trivial
  · cases h

theorem Linked.madeFor (call : Call) (s : Scene ω) (hcall : MadeFor s.1 call) (h : Linked s)
    (reply : call.Reply) (s' : Scene ω) (hover : overWeb web rest depth call s reply s') : Linked s' :=
  h.quiet (quiet_of_idle (idle_of_byHandle hcall.byHandle) hover)

theorem Linked.ensures_interrupt (h : Linked s) :
    Ensures (overWeb web rest depth) interrupt (fun _ => Linked) s := by
  refine Connection.ensures_interrupt Linked.madeFor (h.note ?_ rfl)
  unfold Link.requestDiscard
  split <;> rfl

theorem Linked.ensures_clearInterrupt (h : Linked s) :
    Ensures (overWeb web rest depth) clearInterrupt (fun _ => Linked) s :=
  Connection.ensures_clearInterrupt Linked.madeFor h

theorem Linked.ensures_reset (h : Linked s) :
    Ensures (overWeb web rest depth) reset (fun _ => Linked) s := by
  unfold reset
  rw [ensures_bind]
  refine h.ensures_interrupt.weaken fun _ s h => ?_
  rw [ensures_bind]
  refine h.ensures_clearInterrupt.weaken fun _ s h => ?_
  exact h.settled

/-! ## Whole runs -/

/-- The operation neither opens nor closes the connection. -/
def Operation.Continues : Operation → Prop
  | .connect _ => False
  | .disconnect => False
  | _ => True

theorem Linked.ensures_operation (h : Linked s) {op : Operation} (hop : op.Continues) :
    Ensures (overWeb web rest depth) op.program (fun _ => Linked) s := by
  cases op with
  | connect endpoint => cases hop
  | disconnect => cases hop
  | switchDatabase name => exact h.ensures_switchDatabase name
  | begin => exact h.ensures_begin
  | commit => exact h.ensures_commit
  | rollback => exact h.ensures_rollback
  | runStatement query => exact h.ensures_runStatement query
  | evaluate query => exact h.ensures_evaluate query
  | reset => exact h.ensures_reset

/-- A run of a connection over a web: a new one is connected, and goes on with operations that neither
open nor close it; between them the reset handle may be used. -/
inductive Continued (web : Web ω) (rest : Environment ω) (depth : Nat) : Scene ω → Prop where
  | connected {interactive : Bool} {endpoint : Endpoint} {st : State} {w : ω} {s : Scene ω} :
      (recorded web rest).exec interrupt depth (connect endpoint).run
        ({ interactive }, st, [], w) = (.ok (), s) → Continued web rest depth s
  | operation {s : Scene ω} {op : Operation} : Continued web rest depth s → op.Continues →
      Continued web rest depth ((recorded web rest).exec interrupt depth op.program s).2
  | interrupt {s : Scene ω} : Continued web rest depth s →
      Continued web rest depth ((recorded web rest).exec interrupt depth Connection.interrupt s).2
  | clear {s : Scene ω} : Continued web rest depth s →
      Continued web rest depth ((recorded web rest).exec interrupt depth clearInterrupt s).2

theorem Continued.linked (h : Continued web rest depth s) : Linked s := by
  induction h with
  | @connected interactive endpoint st w s hconnect =>
    have hnew : Linked (({ interactive }, st, [], w) : Scene ω) :=
      ⟨nofun, fun _ => rfl, fun _ => rfl, fun before e after hlog => by simp at hlog⟩
    have hensures : Ensures (overWeb web rest depth) (connect endpoint).run
        (fun r s' => r = .ok () → Linked s') _ := hnew.ensures_connect endpoint
    have hexec := Environment.ensures_exec hensures
    rw [hconnect] at hexec
    exact hexec rfl
  | operation _ hop ih => exact Environment.ensures_exec (ih.ensures_operation hop)
  | interrupt _ ih => exact Environment.ensures_exec ih.ensures_interrupt
  | clear _ ih => exact Environment.ensures_exec ih.ensures_clearInterrupt

/-- The body of a request to commit behind the latest bookmarks; without any it has no such member. -/
def chainedBody (queries : List Query) (latest? : Option Bookmark) : Json :=
  .object (("statements", .array (queries.map statementJson)) ::
    latest?.toList.map fun bookmarks => ("bookmarks", .array (bookmarks.map .string)))

theorem commitJson_eq {queries : List Query} {latest? : Option Bookmark}
    (h : ∀ bookmarks, latest? = some bookmarks → bookmarks ≠ []) :
    commitJson queries latest? = chainedBody queries latest? := by
  unfold commitJson chainedBody
  cases latest? with
  | none => rfl
  | some bookmarks =>
    have hne : bookmarks.isEmpty = false := by simpa using h bookmarks rfl
    simp [hne]

/-- Every request to commit carries exactly the bookmarks that came back last before it, whatever
servers answer, whatever is lost and whenever interrupts arrive. -/
theorem continued_chained (h : Continued web rest depth s) {before after : List Exchange}
    {e : Exchange} (hlog : s.2.2.1 = before ++ e :: after) (hpost : e.request.method = .post) :
    ∃ base username password database queries,
      e.request = Request.commit base username password database queries (latestBookmark? before) ∧
      e.request.body = (chainedBody queries (latestBookmark? before)).text := by
  obtain ⟨base, username, password, database, queries, hrequest⟩ :=
    h.linked.chained before e after hlog hpost
  refine ⟨base, username, password, database, queries, hrequest, ?_⟩
  rw [hrequest, ← commitJson_eq fun _ => latestBookmark?_ne_nil]
  rfl

/-- A server that gives the same bookmark to all transactions; the third request gets lost. -/
def losing : Web Nat := fun request n =>
  { world := n + 1
    finish := fun w =>
      let body := match request.method with
        | .get => "[]"
        | .post => "[[[]],[],[\"b\"]]"
      (if n = 2 then .unreachable else .response ⟨200⟩ (some (Text.Utf8.bytes body)), w) }

/-- Everything else goes well. -/
def untroubled : Environment Nat := fun call w =>
  { world := w, finish := fun w => (willing call, w) }

/-- A switch to another database fails, and the session that is restored goes on behind the bookmark of
the session before. -/
theorem chained_losing :
    let env := recorded losing untroubled
    let connected := env.exec interrupt 0 (connect { address := "http://[::1]" }).run
      ({ interactive := true }, {}, [], 0)
    let s := (env.exec interrupt 0 (Operation.switchDatabase "films").program connected.2).2
    ∃ before e after, s.2.2.1 = before ++ e :: after ∧ e.request.method = .post ∧
      latestBookmark? before = some ["b"] ∧ ∃ base username password database queries,
        e.request = Request.commit base username password database queries (latestBookmark? before) ∧
        e.request.body = (chainedBody queries (latestBookmark? before)).text := by
  intro env connected s
  have hisOk : connected.1.isOk = true := by decide +kernel
  have hok : connected.1 = .ok () := by
    cases hresult : connected.1 with
    | error e => rw [hresult] at hisOk; cases hisOk
    | ok => rfl
  have hcontinued : Continued losing untroubled 0 s :=
    .operation (.connected (Prod.ext hok rfl)) trivial
  have hmethod : (s.2.2.1[4]?).map (·.request.method) = some .post := by decide +kernel
  obtain ⟨e, he, hpost⟩ := Option.map_eq_some_iff.1 hmethod
  obtain ⟨hlength, rfl⟩ := List.getElem?_eq_some_iff.1 he
  have hlog : s.2.2.1 = s.2.2.1.take 4 ++ s.2.2.1[4] :: s.2.2.1.drop 5 := by
    rw [← List.drop_eq_getElem_cons, List.take_append_drop]
  exact ⟨_, _, _, hlog, hpost, by decide +kernel, continued_chained hcontinued hlog hpost⟩

end QueryShell.Connection
