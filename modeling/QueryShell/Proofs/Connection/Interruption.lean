import QueryShell.Proofs.Connection.Custody
import QueryShell.Proofs.Connection.Refusals

/-
What an interrupt costs. It stays pending until it is cleared, and a driver with a pending interrupt
neither lets itself be tested nor opens a session. An operation that is interrupted while it replaces
the session is left without one; everywhere else an interrupt costs no more than the operation.

A switch of databases replaces the session, and so does the way back from a failed one: as long as the
interrupt is not cleared, that fails too (`ensures_switchDatabase_cut`).
-/
namespace QueryShell.Connection

open Program

/-! ## Drivers that yield -/

/-- Whether an interrupt is pending, behind an event. A new driver has none. -/
def interruptedAfter (pending : Bool) : Event → Bool
  | .asked (.driver (.interrupt _)) => true
  | .asked (.driver (.clearInterrupt _)) => false
  | .answered (.driver (.openDriver _)) (.ok _) => false
  | _ => pending

/-- The driver was interrupted, and the interrupt has not been cleared. -/
def interruptPending (log : List Event) : Bool :=
  log.foldl interruptedAfter false

/-- The session has to be opened again. -/
def isExpiry : Driver.Error → Bool
  | .sessionExpired _ => true
  | _ => false

/-- The answers of a driver that fails only because of a pending interrupt, and while an interrupt is
pending does not pass its test. Its sessions are open, and they may expire under a user's query. -/
def yields (expires : Bool) (before : List Event) : Event → Bool
  | .answered (.driver (.isOpen _)) isOpen => isOpen
  | .answered (.driver (.verify _)) (.ok _) => !interruptPending before
  | .answered (.driver (.verify _)) (.error e) => e = .interrupted && interruptPending before
  | .answered (.driver (.openSession _ _)) (.error e) => e = .interrupted && interruptPending before
  | .answered (.driver (.run _ _)) (.error e) =>
    (e = .interrupted && interruptPending before) || (expires && isExpiry e)
  | .answered (.driver (.write _ _)) (.error e) =>
    (e = .interrupted && interruptPending before) || (expires && isExpiry e)
  | _ => true

/-- All events behind `log` are answers of such a driver, or no answers. -/
def Yielding (expires : Bool) (log events : List Event) : Prop :=
  Throughout (Since log fun before e => yields expires before e = true) (log ++ events)

theorem interruptPending_snoc (log : List Event) (e : Event) :
    interruptPending (log ++ [e]) = interruptedAfter (interruptPending log) e := by
  simp [interruptPending]

/-- A pending interrupt stays pending, as long as nothing clears it. -/
theorem interruptPending_append {log events : List Event} (h : interruptPending log = true)
    (hevents : ∀ e ∈ events, interruptedAfter true e = true) :
    interruptPending (log ++ events) = true := by
  induction events generalizing log with
  | nil => simpa using h
  | cons e events ih =>
    obtain ⟨he, hrest⟩ := List.forall_mem_cons.1 hevents
    have hnext : interruptPending (log ++ [e]) = true := by
      rw [interruptPending_snoc, h, he]
    simpa using ih hnext hrest

/-! ## Without clearing -/

/-- The driver yields, and no interrupt is cleared. -/
def Unrelenting (before : List Event) (e : Event) : Prop :=
  yields false before e = true ∧ ∀ driver, e ≠ .asked (.driver (.clearInterrupt driver))

/-- Only clearing it and a new driver end a pending interrupt. -/
theorem interruptedAfter_true {e : Event}
    (hclear : ∀ driver, e ≠ .asked (.driver (.clearInterrupt driver)))
    (hopened : ∀ endpoint driver, e ≠ .answered (.driver (.openDriver endpoint)) (.ok driver)) :
    interruptedAfter true e = true := by
  unfold interruptedAfter
  split
  · rfl
  · exact absurd rfl (hclear _)
  · exact absurd rfl (hopened _ _)
  · rfl

theorem OfHandle.ne_opened {e : Event} (h : OfHandle e) (endpoint : Endpoint) (driver : Driver.Ref) :
    e ≠ .answered (.driver (.openDriver endpoint)) (.ok driver) := by
  rintro rfl
  cases h

variable {depth : Nat} {t : Terms} {log : List Event} {s s' : Connection × List Event}

/-- When a call has been answered, the answer yields, and an interrupt is still pending then. -/
theorem asksWithin_answered {call : Call} {reply : call.Reply}
    (h : asksWithin (Since log Unrelenting) (handleUses depth) call s reply s')
    (hlength : log.length ≤ s.2.length) :
    log.length ≤ s'.2.length ∧ ∃ before, s'.2 = before ++ [.answered call reply] ∧
      yields false before (.answered call reply) = true ∧
      (interruptPending s.2 = true → interruptPending before = true) := by
  obtain ⟨⟨during, hduring, hlog⟩, hallowed⟩ := h
  have hattends := handleUses_attends hduring
  have hsplit : s'.2 = (s.2 ++ .asked call :: during) ++ [.answered call reply] := by simp [hlog]
  have hlast := hallowed _ _ [] hsplit (by simp; omega)
  refine ⟨by simp [hsplit]; omega, _, hsplit, hlast.1,
    fun hpending => interruptPending_append hpending fun e he => ?_⟩
  have hclear : ∀ driver, e ≠ .asked (.driver (.clearInterrupt driver)) := by
    obtain ⟨first, second, hmem⟩ := List.append_of_mem he
    refine (hallowed (s.2 ++ first) e (second ++ [.answered call reply]) ?_ (by simp; omega)).2
    rw [hsplit, hmem]
    simp
  refine interruptedAfter_true hclear fun endpoint driver => ?_
  rcases List.mem_cons.1 he with rfl | he
  · exact nofun
  · exact (hattends.fromHandle e he).ofHandle.ne_opened endpoint driver

/-- There is no session, and an interrupt is pending. -/
structure Cut (log : List Event) (s : Connection × List Event) : Prop where
  length : log.length ≤ s.2.length
  session : s.1.link.session? = none
  pending : interruptPending s.2 = true

theorem Cut.asks (h : Cut log s) {call : Call} {reply : call.Reply}
    (hasks : asksWithin (Since log Unrelenting) (handleUses depth) call s reply s')
    (hopened : ∀ endpoint, call ≠ .driver (.openDriver endpoint)) : Cut log s' := by
  obtain ⟨hlength, before, hlog, -, hpending⟩ := asksWithin_answered hasks h.length
  refine ⟨hlength, (asks_spares hasks.1).session.trans h.session, ?_⟩
  rw [hlog, interruptPending_snoc, hpending h.pending]
  refine interruptedAfter_true (fun _ => nofun) fun endpoint driver heq => ?_
  cases heq
  exact hopened endpoint rfl

theorem ensures_retireSession_cut (hlength : log.length ≤ s.2.length)
    (hpending : interruptPending s.2 = true) :
    Ensures (asksWithin (Since log Unrelenting) (handleUses depth)) retireSession
      (fun _ => Cut log) s := by
  have htaken : Cut log ({ s.1 with link := { s.1.link with session? := none } }, s.2) :=
    ⟨hlength, rfl, hpending⟩
  unfold retireSession takeSession saveBookmark
  rw [ensures_bind, ensures_modifyGet]
  dsimp only
  cases s.1.link.session? with
  | none => exact ⟨hlength, rfl, hpending⟩
  | some session =>
    rw [ensures_bind]
    refine (ensures_call (.driver (.lastBookmark session)) _ _).2 fun latest? s₁ hasks => ?_
    have h₁ := htaken.asks hasks nofun
    rw [ensures_bind, ensures_modifyGet, ensures_bind]
    have hsaved : ∀ bookmark?, Cut log ({ s₁.1 with bookmark? }, s₁.2) :=
      fun _ => ⟨h₁.length, h₁.session, h₁.pending⟩
    refine (ensures_call (.driver (.closeSession session)) _ _).2 fun reply s₂ hasks => ?_
    have h₂ := (hsaved _).asks hasks nofun
    cases reply with
    | ok => exact h₂
    | error e =>
      dsimp only
      rw [ensures_bind]
      exact (ensures_call (.console (.warn .connection _)) _ _).2 fun reply s₃ hasks =>
        h₂.asks hasks nofun

/-- With an interrupt pending no session can be had. -/
theorem ensures_reconnect_cut {driver : Driver.Ref} (hdriver : s.1.link.driver? = some driver)
    (hlength : log.length ≤ s.2.length) (hpending : interruptPending s.2 = true) :
    Ensures (asksWithin (Since log Unrelenting) (handleUses depth)) reconnect.run
      (fun _ s' => s'.1.link.session? = none) s := by
  unfold reconnect
  rw [Attempt.ensures_get_bind, hdriver]
  dsimp only
  rw [Attempt.ensures_lift_bind]
  refine (ensures_retireSession_cut hlength hpending).weaken fun bookmark? s₁ hcut => ?_
  rw [Attempt.ensures_bind]
  refine (ensures_call (.driver (.verify driver)) _ s₁).2 fun reply s₂ hasks => ?_
  obtain ⟨-, before, -, hyields, hstill⟩ := asksWithin_answered hasks hcut.length
  cases reply with
  | error e => exact (hcut.asks hasks nofun).session
  | ok =>
    -- the driver does not pass its test now
    have hnot : (!interruptPending before) = true := hyields
    rw [hstill hcut.pending] at hnot
    cases hnot

/-- When no session can be had, an interrupt is pending. -/
theorem ensures_reconnect_interrupted {driver : Driver.Ref} (hdriver : s.1.link.driver? = some driver)
    (hlength : log.length ≤ s.2.length) :
    Ensures (asksWithin (Since log Unrelenting) (handleUses depth)) reconnect.run
      (fun r s' => ∀ e, r = .error e → interruptPending s'.2 = true) s := by
  have hpending : ∀ {e : Driver.Error} {before : List Event},
      (e = .interrupted && interruptPending before) = true → interruptPending before = true :=
    fun h => (Bool.and_eq_true_iff.1 h).2
  unfold reconnect
  rw [Attempt.ensures_get_bind, hdriver]
  dsimp only
  rw [Attempt.ensures_lift_bind]
  refine (ensures_grows retireSession s).weaken fun bookmark? s₁ hgrows => ?_
  rw [Attempt.ensures_bind]
  refine (ensures_call (.driver (.verify driver)) _ s₁).2 fun reply s₂ hasks => ?_
  obtain ⟨hlength₂, before, hlog, hyields, -⟩ :=
    asksWithin_answered hasks (Nat.le_trans hlength hgrows)
  cases reply with
  | error e =>
    intro _ _
    rw [hlog, interruptPending_snoc]
    exact hpending hyields
  | ok =>
    refine (Attempt.ensures_get_bind _ _ s₂).2 ?_
    rw [Attempt.ensures_bind]
    refine (ensures_call (.driver (.openSession driver _)) _ s₂).2 fun reply s₃ hasks => ?_
    obtain ⟨hlength₃, before, hlog, hyields, -⟩ := asksWithin_answered hasks hlength₂
    cases reply with
    | error e =>
      intro _ _
      rw [hlog, interruptPending_snoc]
      exact hpending hyields
    | ok session =>
      refine (Attempt.ensures_lift_bind _ _ _ _).2 ?_
      unfold putSession
      rw [ensures_modify, Attempt.ensures_get_bind, Attempt.ensures_bind]
      refine (ensures_call (.driver (.run session _)) _ _).2 fun reply s₄ hasks => ?_
      obtain ⟨-, before, hlog, hyields, -⟩ := asksWithin_answered hasks hlength₃
      cases reply with
      | ok outcome => exact nofun
      | error e =>
        intro _ _
        rw [hlog, interruptPending_snoc]
        -- what expires here is no session of the user's
        rcases Bool.or_eq_true_iff.1 hyields with hyields | hyields
        · exact hpending hyields
        · cases hyields

/-- A switch that fails leaves no session: the way back from it is interrupted as well. -/
theorem ensures_switchDatabase_cut (name : String) (h : Owns t s)
    (hinteractive : t.interactive = true) :
    Ensures (asksWithin (Since s.2 Unrelenting) (handleUses depth)) (switchDatabase name).run
      (fun r s' => ∀ e, r = .error e → e ≠ .refused .transactionOpenOnSwitch →
        s'.1.link.session? = none) s := by
  have hanswers : ∀ {call : Call} {s₁ : Connection × List Event} {reply : call.Reply}
      {s₂ : Connection × List Event},
      asksWithin (Since s.2 Unrelenting) (handleUses depth) call s₁ reply s₂ →
        asks (handleUses depth) call s₁ reply s₂ := And.left
  unfold switchDatabase
  rw [ensures_settle_bind, Attempt.ensures_get_bind]
  split
  · intro e he hne
    cases he
    exact absurd rfl hne
  refine (Attempt.ensures_lift_bind _ _ _ _).2 ?_
  unfold activate
  rw [ensures_modifyGet, Attempt.ensures_lift_bind]
  have hactive := h.settled.setActive name
  refine ((hactive.ensures_isConnected hanswers).and (ensures_grows isConnected _)).weaken ?_
  rintro connected s₁ ⟨⟨⟨howns, -⟩, hopen⟩, hlength⟩
  cases connected with
  | false => exact nofun
  | true =>
    obtain ⟨driver, hdriver⟩ := Option.isSome_iff_exists.1 (howns.driver_isSome (hopen rfl))
    have hreconnect := (howns.ensures_reconnect hanswers hdriver).and
      ((ensures_reconnect_interrupted (howns.driver.trans hdriver) hlength).and
        (ensures_grows reconnect.run s₁))
    refine (Attempt.ensures_lift_bind _ _ _ _).2 (hreconnect.weaken ?_)
    rintro (source | _) s₂ ⟨⟨howns₂, -, -⟩, hpending, hgrows⟩
    · refine (Attempt.ensures_get_bind _ _ _).2 ?_
      have hstill : s₂.1.interactive = true :=
        (congrArg Terms.interactive howns₂.terms).trans hinteractive
      rw [if_pos hstill]
      refine (Attempt.ensures_lift_bind _ _ _ _).2 ?_
      rw [ensures_modifyGet, Attempt.ensures_lift_bind]
      have hdriver₂ : s₂.1.link.driver? = some driver := howns₂.driver.trans hdriver
      -- the interrupt that cut the first attempt short is still pending in the second
      refine Ensures.weaken (ensures_reconnect_cut hdriver₂ (Nat.le_trans hlength hgrows)
        (hpending source rfl)) ?_
      rintro (e | _) s₃ hnone
      · exact fun _ _ _ => hnone
      · exact fun _ _ _ => hnone
    · exact nofun

/-! ## What becomes of the session -/

variable {c c' : Connection} {events : List Event}

/-- A query replaces the session only if that has expired. -/
theorem runs_runNow_session {query : Query} {r : Except Failure Outcome}
    (h : Runs (handleUses depth) (runNow query).run c events r c') :
    c'.link.session? = c.link.session? ∨ ∃ session message,
      .answered (.driver (.run session query)) (.error (.sessionExpired message)) ∈ events := by
  have hrequired : ∀ {events r d}, Runs (handleUses depth) requireSession.run c events r d →
      d.link.session? = c.link.session? := by
    intro events r d hrequire
    rcases runs_requireSession hrequire with ⟨_, -, hlooks⟩ | ⟨-, hlooks⟩
    · exact hlooks.session?_eq
    · exact hlooks.session?_eq
  rcases Attempt.runs_bind h with ⟨e, -, hfail⟩ | ⟨first, session, d, second, hfirst, hrest, rfl⟩
  · exact .inl (hrequired hfail)
  have hfound := hrequired hfirst
  obtain ⟨third, reply, d', fourth, hrun, hend, rfl⟩ := Attempt.runs_lift_bind hrest
  obtain ⟨during, hduring, rfl⟩ := runs_driver hrun
  have hsent := (handleUses_attends hduring).spares.session.trans hfound
  have hnoted : ∀ {outcome : Outcome} {r : Except Failure Outcome},
      Runs (handleUses depth) (do modify (noteDatabase outcome.database); return outcome :
        Attempt Connection Failure Outcome).run d' fourth r c' →
      c'.link.session? = c.link.session? := by
    intro outcome r hnote
    have hpure := Attempt.runs_modify_bind hnote
    obtain ⟨-, -, rfl⟩ := Attempt.runs_pure hpure
    exact hsent
  cases reply with
  | ok outcome => exact .inl (hnoted hend)
  | error e =>
    cases e with
    | sessionExpired message => exact .inr ⟨session, message, by simp⟩
    | _ =>
      obtain ⟨-, -, rfl⟩ := Attempt.runs_throw_bind hend
      exact .inl hsent

/-- What becomes of a session is told by the latest attempt to get one. -/
theorem Owns.session?_isSome_iff {t' : Terms} (h : Owns t (c, log)) (h' : Owns t' (c', log ++ events))
    (hdriver : t'.driver? = t.driver?) (hsession : c.link.session?.isSome = true) :
    c'.link.session?.isSome = true ↔ lastAttempt? events ≠ some false := by
  have hsome := h.driver_isSome hsession
  have hbefore : lastAttempt? log = some true := hsession ▸ h.attempt hsome
  have hafter := h'.attempt (hdriver ▸ hsome)
  -- the session before came from the latest attempt then, so one in `events` decides, if there is any
  rw [lastAttempt?_or, hbefore] at hafter
  cases hlast : lastAttempt? events with
  | none =>
    rw [hlast, Option.none_or] at hafter
    simp [← Option.some.inj hafter]
  | some got =>
    rw [hlast, Option.some_or] at hafter
    rw [← Option.some.inj hafter]
    simp

/-- The operation needs a connection, and leaves it open. -/
def Operation.Works : Operation → Prop
  | .connect _ => False
  | .disconnect => False
  | .reset => False
  | _ => True

/-- The operation sends queries of the user, under which a session may expire. -/
def Operation.sends : Operation → Bool
  | .commit => true
  | .runStatement _ => true
  | .evaluate _ => true
  | _ => false

variable {op : Operation} {result : op.Result}

/-- The driver stays. -/
theorem Owns.of_works (h : Owns t (c, log)) (hop : op.Works)
    (hrun : Runs (handleUses depth) op.program c events result c') :
    ∃ t', Owns t' (c', log ++ events) ∧ t'.driver? = t.driver? := by
  cases op with
  | connect endpoint => cases hop
  | disconnect => cases hop
  | reset => cases hop
  | switchDatabase name =>
    obtain ⟨active, howns, -, -⟩ := ensures_of_runs (h.ensures_switchDatabase id name) hrun
    exact ⟨_, howns, rfl⟩
  | begin => exact ⟨t, (ensures_of_runs (h.ensures_begin id) hrun).1, rfl⟩
  | commit => exact ⟨t, (ensures_of_runs (h.ensures_commit id) hrun).1, rfl⟩
  | rollback => exact ⟨t, (ensures_of_runs (h.ensures_rollback id) hrun).1, rfl⟩
  | runStatement query =>
    have howns := ensures_of_runs (h.ensures_runStatement id query) hrun
    exact ⟨t, howns, rfl⟩
  | evaluate query =>
    have howns := ensures_of_runs (h.ensures_evaluate id query) hrun
    exact ⟨t, howns, rfl⟩

/-- Operations on the transaction leave the session alone. -/
theorem Owns.session?_of_transactional (h : Owns t (c, log))
    (hop : op = .begin ∨ op = .commit ∨ op = .rollback)
    (hrun : Runs (handleUses depth) op.program c events result c') :
    c'.link.session? = c.link.session? := by
  rcases hop with rfl | rfl | rfl
  · exact (ensures_of_runs (h.ensures_begin id) hrun).2
  · exact (ensures_of_runs (h.ensures_commit id) hrun).2
  · exact (ensures_of_runs (h.ensures_rollback id) hrun).2

theorem runs_query_session {query : Query} (hop : op = .runStatement query ∨ op = .evaluate query)
    (hrun : Runs (handleUses depth) op.program c events result c') :
    c'.link.session? = c.link.session? ∨ ∃ session message,
      .answered (.driver (.run session query)) (.error (.sessionExpired message)) ∈ events := by
  have hlooked : ∀ {events connected d}, Looks depth c.applyDiscard events connected d →
      d.link.session? = c.link.session? :=
    fun hlooks => hlooks.session?_eq.trans (applyDiscard_session? c)
  have hnow : ∀ {first d second} {r : Except Failure Outcome},
      Looks depth c.applyDiscard first true d →
      Runs (handleUses depth) (runNow query).run d second r c' →
      c'.link.session? = c.link.session? ∨ ∃ session message,
        .answered (.driver (.run session query)) (.error (.sessionExpired message)) ∈
          first ++ second := by
    intro first d second r hlooks hnow
    rcases runs_runNow_session hnow with hsame | ⟨session, message, hmem⟩
    · exact .inl (hsame.trans (hlooked hlooks))
    · exact .inr ⟨session, message, List.mem_append_right _ hmem⟩
  rcases hop with rfl | rfl
  · rcases runs_looks hrun with ⟨hlooks, -⟩ | ⟨first, d, second, hlooks, hrest, rfl⟩
    · exact .inl (hlooked hlooks)
    have hrest := Attempt.runs_get_bind hrest
    split at hrest
    · have hend := Attempt.runs_modify_bind hrest
      obtain ⟨-, -, rfl⟩ := Attempt.runs_pure hend
      have hsame := hlooked hlooks
      exact .inl hsame
    · rcases Attempt.runs_bind hrest with ⟨e, -, hfail⟩ | ⟨third, outcome, d', fourth, hok, hend, rfl⟩
      · exact hnow hlooks hfail
      · obtain ⟨rfl, -, rfl⟩ := Attempt.runs_pure hend
        rw [List.append_nil]
        exact hnow hlooks hok
  · rcases runs_looks hrun with ⟨hlooks, -⟩ | ⟨first, d, second, hlooks, hrest, rfl⟩
    · exact .inl (hlooked hlooks)
    · exact hnow hlooks hrest

/-! ## What an interrupt costs -/

/-- What an operation leaves of an open connection, however often it was interrupted. -/
structure Withstands (depth : Nat) (log : List Event) (c : Connection) (op : Operation)
    (events : List Event) (result : op.Result) (c' : Connection) : Prop where
  /-- When the interrupt has been cleared, there is a connection, unless the operation was cut short
  in its latest attempt to get a session. -/
  connected : ∀ cleared looked connected d d',
    Runs (handleUses depth) clearInterrupt c' cleared () d →
    Runs (handleUses depth) isConnected d looked connected d' →
    (∀ session, .answered (.driver (.isOpen session)) false ∉ looked) →
      (connected = true ↔ lastAttempt? events ≠ some false)
  /-- Only a pending interrupt cuts an attempt short. -/
  pending : ∀ before e after, events = before ++ e :: after → attempt? e = some false →
    interruptPending (log ++ before) = true
  driver : c'.link.driver? = c.link.driver?
  kept : op = .begin ∨ op = .commit ∨ op = .rollback → lastAttempt? events ≠ some false
  expired : ∀ query, op = .runStatement query ∨ op = .evaluate query →
    lastAttempt? events = some false → ∃ session message,
      .answered (.driver (.run session query)) (.error (.sessionExpired message)) ∈ events
  switched : ∀ name, op = .switchDatabase name → op.failure? result = none →
    c'.active = name ∧ lastAttempt? events ≠ some false
  refused : ∀ name, op = .switchDatabase name →
    op.failure? result = some (.refused .transactionOpenOnSwitch) →
      c'.active = c.active ∧ lastAttempt? events ≠ some false
  /-- The way back from a failed switch is cut short too, as long as nobody clears the interrupt. -/
  failed : ∀ name f, op = .switchDatabase name → op.failure? result = some f →
    f ≠ .refused .transactionOpenOnSwitch → c'.active = c.active ∧
      ((∀ driver, .asked (.driver (.clearInterrupt driver)) ∉ events) →
        lastAttempt? events = some false)

theorem yields_cut {expires : Bool} {before : List Event} {e : Event}
    (h : yields expires before e = true) (hcut : attempt? e = some false) :
    interruptPending before = true := by
  unfold attempt? at hcut
  split at hcut
  · exact (Bool.and_eq_true_iff.1 h).2
  · exact (Bool.and_eq_true_iff.1 h).2
  · cases hcut
  · cases hcut

/-- After clearing the interrupt there is a connection if there is a session. -/
theorem runs_connected_iff {cleared looked : List Event} {connected : Bool} {d d' : Connection}
    (hclear : Runs (handleUses depth) clearInterrupt c cleared () d)
    (hlook : Runs (handleUses depth) isConnected d looked connected d')
    (hopen : ∀ session, .answered (.driver (.isOpen session)) false ∉ looked) :
    connected = true ↔ c.link.session?.isSome = true := by
  have huses : handleUses (depth + 1) c (cleared ++ []) d := .clear hclear .none
  have hsame := (handleUses_attends huses).spares.session
  rw [← hsame]
  have hlooks := runs_isConnected hlook
  cases hlooks with
  | nothing hnone => simp [hnone]
  | @session session during _ _ hsession _ =>
    rw [hsession]
    cases connected with
    | true => simp
    | false => exact absurd (by simp) (hopen session)

theorem withstands_switchDatabase {name : String} {result : Except Failure Unit}
    (h : Owns t (c, log)) (hinteractive : t.interactive = true)
    (hsession : c.link.session?.isSome = true)
    (hrun : Runs (handleUses depth) (Operation.switchDatabase name).program c events result c')
    (hyields : Yielding false log events) :
    ((Operation.switchDatabase name).failure? result = none →
      c'.active = name ∧ c'.link.session?.isSome = true) ∧
    ((Operation.switchDatabase name).failure? result = some (.refused .transactionOpenOnSwitch) →
      c'.link.session?.isSome = true) ∧
    ∀ f, (Operation.switchDatabase name).failure? result = some f →
      c'.active = c.active ∧ (f ≠ .refused .transactionOpenOnSwitch →
        (∀ driver, .asked (.driver (.clearInterrupt driver)) ∉ events) →
          c'.link.session? = none) := by
  obtain ⟨active, howns, hok, herror⟩ :=
    ensures_of_runs (h.ensures_switchDatabase id name) hrun
  have hactive : c'.active = active := congrArg Terms.active howns.terms
  have hbefore : c.active = t.active := congrArg Terms.active h.terms
  refine ⟨fun hnone => ?_, fun hrefused => ?_, fun f hfailed => ?_⟩
  · cases result with
    | error e => cases hnone
    | ok =>
      obtain ⟨rfl, hsome⟩ := hok rfl
      exact ⟨hactive, hsome hsession⟩
  · have hguarded := guarded_switchDatabase hrun true
    cases hopen : c.transactionOpen with
    | true =>
      rw [hopen] at hguarded
      rw [(hguarded.refused _ rfl).2.session]
      exact hsession
    | false =>
      rw [hopen] at hguarded
      cases (hguarded.accepted rfl _ hrefused).1
  · cases result with
    | ok => cases hfailed
    | error e =>
      obtain rfl : e = f := Option.some.inj hfailed
      refine ⟨hactive.trans ((herror e rfl hinteractive).trans hbefore.symm), fun hne hclear => ?_⟩
      have hunrelenting : Throughout (Since log Unrelenting) (log ++ events) := by
        intro before e after hsplit hlength
        refine ⟨hyields before e after hsplit hlength, fun driver heq => hclear driver ?_⟩
        obtain ⟨rest, rfl⟩ := List.prefix_of_prefix_length_le (List.prefix_append log events)
          ⟨_, hsplit.symm⟩ hlength
        rw [List.append_assoc] at hsplit
        rw [List.append_cancel_left hsplit, heq]
        simp
      exact ensures_of_runs_within (ensures_switchDatabase_cut name h hinteractive) hrun hunrelenting
        e rfl hne

/-- An interrupt costs the connection only if it is pending while the session is replaced: then there
is none in the end. Else the connection is there when the interrupt has been cleared. -/
theorem visited_withstands {looked : List Event} {d : Connection} (h : Visited depth true log c)
    (hconnected : Runs (handleUses depth) isConnected c looked true d) (hop : op.Works)
    (hrun : Runs (handleUses depth) op.program c events result c')
    (hyields : Yielding op.sends log events) : Withstands depth log c op events result c' := by
  have howns := h.owns
  have hsession : c.link.session?.isSome = true := by
    cases runs_isConnected hconnected with
    | session hsession => rw [hsession, Option.isSome_some]
  obtain ⟨t', howns', hdriver⟩ := howns.of_works hop hrun
  have hiff := howns.session?_isSome_iff howns' hdriver hsession
  refine ⟨?_, ?_, howns'.driver.trans hdriver, ?_, ?_, ?_, ?_, ?_⟩
  · intro cleared looked connected d d' hclear hlook hopen
    exact (runs_connected_iff hclear hlook hopen).trans hiff
  · rintro before e after rfl hcut
    exact yields_cut (hyields (log ++ before) e after (by simp) (by simp)) hcut
  · intro htransactional
    rw [← hiff, howns.session?_of_transactional htransactional hrun]
    exact hsession
  · intro query hquery hlast
    refine (runs_query_session hquery hrun).resolve_left fun hsame => ?_
    rw [← hsame] at hsession
    exact hiff.1 hsession hlast
  · rintro name rfl hnone
    obtain ⟨hswitched, -, -⟩ := withstands_switchDatabase howns rfl hsession hrun hyields
    exact (hswitched hnone).imp_right hiff.1
  · rintro name rfl hrefused
    obtain ⟨-, hstays, hfailed⟩ := withstands_switchDatabase howns rfl hsession hrun hyields
    exact ⟨(hfailed _ hrefused).1, hiff.1 (hstays hrefused)⟩
  · rintro name f rfl hfailure hne
    obtain ⟨-, -, hfailed⟩ := withstands_switchDatabase howns rfl hsession hrun hyields
    obtain ⟨hactive, hcut⟩ := hfailed f hfailure
    refine ⟨hactive, fun hclear => ?_⟩
    rw [hcut hne hclear] at hiff
    by_contra hlast
    cases hiff.2 hlast

/-! ## Two interrupts -/

/-- The call may be interrupted, as a script says; if an interrupt is pending then, it fails. -/
def arriving {α : Type} (reply : α) : Connection × Bool × List Bool →
    List Event × Except Driver.Error α × (Connection × Bool × List Bool)
  | (c, _, true :: script) =>
    let reset := interrupt.trace Program.willing c
    (.interrupted :: reset.1 ++ [], .error .interrupted, reset.2.2, true, script)
  | (c, pending, script) =>
    ([], if pending then .error .interrupted else .ok reply, c, pending, script.tail)

/-- A driver that yields to the interrupts of a script. -/
def yielding : (call : Call) → Connection × Bool × List Bool →
    List Event × call.Reply × (Connection × Bool × List Bool)
  | .driver (.verify _), w => arriving () w
  | .driver (.openSession _ _), w => arriving ⟨0⟩ w
  | .driver (.run _ _), w => arriving {} w
  | .driver (.clearInterrupt _), (c, _, script) => ([], (), c, false, script)
  | call, w => ([], Program.willing call, w)

theorem handleUses_arriving {α : Type} (reply : α) (w : Connection × Bool × List Bool) :
    handleUses 1 w.1 (arriving reply w).1 (arriving reply w).2.2.1 := by
  unfold arriving
  split
  · exact .reset (runs_trace (handleUses_quiet 0) Program.willing interrupt _) .none
  · exact .none

theorem handleUses_yielding (call : Call) (w : Connection × Bool × List Bool) :
    handleUses 1 w.1 (yielding call w).1 (yielding call w).2.2.1 := by
  unfold yielding
  split
  · exact handleUses_arriving _ _
  · exact handleUses_arriving _ _
  · exact handleUses_arriving _ _
  · exact .none
  · exact .none

/-- The fourth call is interrupted: a query. -/
theorem withstands_evaluate :
    let before := rehearse yielding [.connect {}]
      ({ interactive := true }, false, [false, false, false, true])
    let look := isConnected.rehearse yielding before.2
    let op : Operation := .evaluate { text := "RETURN 2" }
    let step := op.program.rehearse yielding before.2
    Visited 1 true before.1 before.2.1 ∧
      Runs (handleUses 1) isConnected before.2.1 look.1 true look.2.2.1 ∧
      Runs (handleUses 1) op.program before.2.1 step.1 step.2.1 step.2.2.1 ∧
      Yielding op.sends before.1 step.1 ∧ op.failure? step.2.1 = some .interrupted ∧
      Withstands 1 before.1 before.2.1 op step.1 step.2.1 step.2.2.1 := by
  intro before look op step
  have hvisited : Visited 1 true ([] ++ before.1) before.2.1 :=
    visited_rehearse handleUses_yielding [.connect {}] (false, [false, false, false, true]) .new
  rw [List.nil_append] at hvisited
  have hopen : look.2.1 = true := by decide +kernel
  have hlook : Runs (handleUses 1) isConnected before.2.1 look.1 true look.2.2.1 :=
    runs_of_rehearse handleUses_yielding rfl hopen
  have hrun : Runs (handleUses 1) op.program before.2.1 step.1 step.2.1 step.2.2.1 :=
    runs_of_rehearse handleUses_yielding rfl rfl
  have hyields : Yielding op.sends before.1 step.1 :=
    throughout_of_allowedFrom throughout_since (by decide +kernel)
  exact ⟨hvisited, hlook, hrun, hyields, by decide +kernel,
    visited_withstands hvisited hlook trivial hrun hyields⟩

/-- The fourth call is interrupted: the test of the driver for a session on another database. The
connection does not come back when the interrupt is cleared. -/
theorem not_connected_switchDatabase :
    let before := rehearse yielding [.connect {}]
      ({ interactive := true }, false, [false, false, false, true])
    let look := isConnected.rehearse yielding before.2
    let step := (Operation.switchDatabase "films").program.rehearse yielding before.2
    let clear := clearInterrupt.rehearse yielding step.2.2
    let after := isConnected.rehearse yielding clear.2.2
    Visited 1 true before.1 before.2.1 ∧
      Runs (handleUses 1) isConnected before.2.1 look.1 true look.2.2.1 ∧
      Runs (handleUses 1) (Operation.switchDatabase "films").program before.2.1 step.1 step.2.1
        step.2.2.1 ∧
      Yielding false before.1 step.1 ∧
      Runs (handleUses 1) clearInterrupt step.2.2.1 clear.1 () clear.2.2.1 ∧
      Runs (handleUses 1) isConnected clear.2.2.1 after.1 false after.2.2.1 := by
  intro before look step clear after
  have hvisited : Visited 1 true ([] ++ before.1) before.2.1 :=
    visited_rehearse handleUses_yielding [.connect {}] (false, [false, false, false, true]) .new
  rw [List.nil_append] at hvisited
  have hopen : look.2.1 = true := by decide +kernel
  have hlost : after.2.1 = false := by decide +kernel
  have hyields : Yielding false before.1 step.1 :=
    throughout_of_allowedFrom throughout_since (by decide +kernel)
  exact ⟨hvisited, runs_of_rehearse handleUses_yielding rfl hopen,
    runs_of_rehearse handleUses_yielding rfl rfl, hyields,
    runs_of_rehearse handleUses_yielding rfl (Subsingleton.elim clear.2.1 ()),
    runs_of_rehearse handleUses_yielding rfl hlost⟩

end QueryShell.Connection
