import QueryShell.Proofs.Connection.Custody
import QueryShell.Proofs.Connection.Turns

/-
What a failed connect leaves and reports. It may fail at four points: no driver, a driver that does
not reach its server, no session, or a session that does not answer. Behind each of them what is held
by then is closed, the session first, and all that is known of the server is forgotten
(`connect_leavesNothing`). The closing may fail as well, and interrupts may come in at any time; the
error that is reported is still the first one.
-/
namespace QueryShell.Connection

open Program

/-! ## Turns that fail -/

namespace Turn

/-- Why a turn of a connect failed, if it did. -/
def failure? : Turn → Option Driver.Error
  | ⟨.openDriver _, .error e⟩ => some e
  | ⟨.verify _, .error e⟩ => some e
  | ⟨.openSession _ _, .error e⟩ => some e
  | ⟨.run _ _, .error e⟩ => some e
  | _ => none

/-- Why a session or a driver could not be closed properly. -/
def closingError? : Turn → Option Driver.Error
  | ⟨.closeSession _, .error e⟩ => some e
  | ⟨.closeDriver _, .error e⟩ => some e
  | _ => none

end Turn

/-- The last turn failed, and it was the first to do so. -/
def FailsWith (source : Driver.Error) (ts : List Turn) : Prop :=
  ∃ before t, ts = before ++ [t] ∧ t.failure? = some source ∧ ∀ u ∈ before, u.failure? = none

theorem FailsWith.behind {source : Driver.Error} {ts front : List Turn} (h : FailsWith source ts)
    (hfront : ∀ u ∈ front, u.failure? = none) : FailsWith source (front ++ ts) := by
  obtain ⟨before, t, rfl, ht, hbefore⟩ := h
  exact ⟨front ++ before, t, by simp, ht, List.forall_mem_append.2 ⟨hfront, hbefore⟩⟩

theorem looks_failure? (session? : Option Driver.SessionRef) (isOpen : Bool) :
    ∀ u ∈ looks session? isOpen, u.failure? = none := by
  cases session? with
  | none => nofun
  | some session => exact List.forall_mem_singleton.2 rfl

theorem Renewal.failsWith {driver : Driver.Ref} {active : String} {bookmark? : Option Bookmark}
    {ts : List Turn} {source : Driver.Error} (h : Renewal driver active bookmark? ts (.error source)) :
    FailsWith source ts := by
  cases h with
  | unverified => exact ⟨[], _, rfl, rfl, nofun⟩
  | unopened => exact ⟨[_], _, rfl, rfl, by simp [Turn.failure?]⟩
  | untested => exact ⟨[_, _], _, rfl, rfl, by simp [Turn.failure?]⟩

theorem Replacement.failsWith {driver : Driver.Ref} {c : Connection} {ts : List Turn}
    {source : Driver.Error} (h : Replacement driver c ts (.error source)) : FailsWith source ts := by
  cases h with
  | first _ hrenewal => exact hrenewal.failsWith
  | next latest? closed _ hrenewal =>
    show FailsWith source ([_, _] ++ _)
    exact hrenewal.failsWith.behind (by simp [Turn.failure?])

/-- The turns in which something that is held is closed, the session first. -/
def closings (k : Holding) (ofSession ofDriver : Except Driver.Error Unit) : List Turn :=
  k.session?.toList.map (⟨.closeSession ·, ofSession⟩) ++
    k.driver?.toList.map (⟨.closeDriver ·, ofDriver⟩)

theorem closings_session (driver? : Option Driver.Ref) (session : Driver.SessionRef)
    (ofSession ofDriver : Except Driver.Error Unit) :
    closings ⟨driver?, some session⟩ ofSession ofDriver =
      ⟨.closeSession session, ofSession⟩ :: closings ⟨driver?, none⟩ (.ok ()) ofDriver := rfl

/-! ## The way to a failure -/

variable {depth : Nat} {c c' : Connection} {log events : List Event} {s s' : Connection × List Event}

theorem ensures_establish_turns (endpoint : Endpoint) (s : Connection × List Event) :
    Ensures (asks (handleUses depth)) (establish endpoint).run (fun r s' => ∃ ts,
      turns s'.2 = turns s.2 ++ ts ∧ ∀ source, r = .error source → FailsWith source ts) s := by
  unfold establish
  rw [Attempt.ensures_bind]
  refine (ensures_call (.driver (.openDriver endpoint)) _ s).2 fun opened s₁ hasks => ?_
  have hturns := asks_turn rfl hasks
  cases opened with
  | error e =>
    refine ⟨_, hturns, ?_⟩
    rintro _ ⟨⟩
    exact ⟨[], _, rfl, rfl, nofun⟩
  | ok driver =>
    refine (Attempt.ensures_lift_bind _ _ _ _).2 ?_
    unfold putDriver
    rw [ensures_modify]
    refine (ensures_reconnect_turns rfl).weaken ?_
    rintro r s₂ ⟨ts, renewed, hturns₂, hreplacement, rfl, -⟩
    refine ⟨[⟨.openDriver endpoint, .ok driver⟩] ++ ts, ?_, ?_⟩
    · rw [hturns₂, hturns, List.append_assoc]
    · intro source hsource
      cases renewed with
      | ok session => cases hsource
      | error e =>
        cases hsource
        exact hreplacement.failsWith.behind (List.forall_mem_singleton.2 rfl)

/-! ## The way back -/

/-- All that is known about the server is forgotten, and no transaction is left. -/
structure Forgotten (c : Connection) : Prop where
  transaction : c.transactionOpen = false ∧ c.pending? = none
  discard : c.link.discardRequested = false
  bookmark : c.bookmark? = none
  version : c.reported? = none
  database : c.actual? = none

theorem forgotten_forget (c : Connection) : Forgotten c.forget :=
  ⟨⟨rfl, rfl⟩, rfl, rfl, rfl, rfl⟩

/-- The driver in the link is closed, behind what has failed already. -/
theorem ensures_closeDriver_turns {f : Option Driver.Ref → Program Connection (List Driver.Error)}
    {g : Driver.Ref → Except Driver.Error Unit → Program Connection (List Driver.Error)}
    (failures : List Driver.Error)
    (hclose : ∀ driver, f (some driver) = Program.driver (.closeDriver driver) >>= g driver)
    (hnone : f none = modify forget >>= fun _ => pure failures)
    (hok : ∀ driver, g driver (.ok ()) = modify forget >>= fun _ => pure failures)
    (herror : ∀ driver e, g driver (.error e) = modify forget >>= fun _ => pure (failures ++ [e]))
    (s : Connection × List Event) :
    Ensures (asks (handleUses depth)) (takeDriver >>= f) (fun failures' s' => ∃ ofDriver ts,
      ts = closings ⟨s.1.link.driver?, none⟩ (.ok ()) ofDriver ∧ turns s'.2 = turns s.2 ++ ts ∧
        failures' = failures ++ ts.filterMap Turn.closingError? ∧ Forgotten s'.1) s := by
  unfold takeDriver
  rw [ensures_bind, ensures_modifyGet]
  dsimp only
  cases hdriver : s.1.link.driver? with
  | none =>
    rw [hnone]
    exact ⟨.ok (), _, rfl, by simp [closings], by simp [closings], forgotten_forget _⟩
  | some driver =>
    rw [hclose, ensures_bind]
    refine (ensures_call (.driver (.closeDriver driver)) _ _).2 fun closed s' hasks => ?_
    have hturns := asks_turn rfl hasks
    rcases closed with e | _
    · rw [herror]
      exact ⟨.error e, _, rfl, hturns, rfl, forgotten_forget _⟩
    · rw [hok]
      exact ⟨.ok (), _, rfl, hturns, (List.append_nil _).symm, forgotten_forget _⟩

/-- What is in the link is closed, the session first, and what fails meanwhile is told. -/
theorem ensures_tearDown_turns (s : Connection × List Event) :
    Ensures (asks (handleUses depth)) tearDown (fun failures s' => ∃ ofSession ofDriver ts,
      ts = closings ⟨s.1.link.driver?, s.1.link.session?⟩ ofSession ofDriver ∧
        turns s'.2 = turns s.2 ++ ts ∧ failures = ts.filterMap Turn.closingError? ∧
        Forgotten s'.1) s := by
  unfold tearDown takeSession
  rw [ensures_bind, ensures_modifyGet]
  dsimp only
  cases hsession : s.1.link.session? with
  | none =>
    show Ensures _ (takeDriver >>= _) _ _
    refine Ensures.weaken
      (ensures_closeDriver_turns [] (fun _ => rfl) rfl ?_ ?_ _) ?_
    · exact fun _ => rfl
    · exact fun _ _ => rfl
    rintro failures s' ⟨ofDriver, _, rfl, hturns, hfailures, hforgotten⟩
    exact ⟨.ok (), ofDriver, _, rfl, hturns, hfailures, hforgotten⟩
  | some session =>
    rw [ensures_bind]
    refine (ensures_call (.driver (.closeSession session)) _ _).2 fun closed s₁ hasks => ?_
    have hturns := asks_turn rfl hasks
    have hdriver := (asks_spares hasks).driver
    have hboth {s' : Connection × List Event} {ofDriver : Except Driver.Error Unit}
        (hturns' : turns s'.2 = turns s₁.2 ++ closings ⟨s₁.1.link.driver?, none⟩ (.ok ()) ofDriver) :
        turns s'.2 = turns s.2 ++
          closings ⟨s.1.link.driver?, some session⟩ closed ofDriver := by
      rw [hturns', hturns, hdriver, closings_session, List.append_assoc]
      rfl
    rcases closed with e | _
    · show Ensures _ (takeDriver >>= _) _ _
      refine Ensures.weaken
        (ensures_closeDriver_turns [e] (fun _ => rfl) rfl ?_ ?_ _) ?_
      · exact fun _ => rfl
      · exact fun _ _ => rfl
      rintro failures s' ⟨ofDriver, _, rfl, hturns', rfl, hforgotten⟩
      refine ⟨.error e, ofDriver, _, rfl, hboth hturns', ?_, hforgotten⟩
      rw [hdriver, closings_session]
      rfl
    · show Ensures _ (takeDriver >>= _) _ _
      refine Ensures.weaken
        (ensures_closeDriver_turns [] (fun _ => rfl) rfl ?_ ?_ _) ?_
      · exact fun _ => rfl
      · exact fun _ _ => rfl
      rintro failures s' ⟨ofDriver, _, rfl, hturns', rfl, hforgotten⟩
      refine ⟨.ok (), ofDriver, _, rfl, hboth hturns', ?_, hforgotten⟩
      rw [hdriver, closings_session]
      rfl

/-! ## What is left -/

/-- Nothing of a connection is left, and another one can be opened. -/
structure LeavesNothing (depth : Nat) (c : Connection) : Prop extends Forgotten c where
  driver : c.link.driver? = none
  session : c.link.session? = none
  /-- Nobody has to be asked to see that it is not connected. -/
  unconnected : ∀ events connected d, Runs (handleUses depth) isConnected c events connected d →
    connected = false ∧ events = []
  /-- Whatever the handle is used for meanwhile, a connect is not refused. -/
  again : ∀ first d endpoint second result c' refusal, Uses (handleUses depth) c first d →
    Runs (handleUses depth) (connect endpoint).run d second result c' →
      result ≠ .error (.refused refusal)

/-- How a connect behind `log` failed: `front` are the events up to its failure, for the reason
`source`, and `back` those behind it. -/
structure GivesUp (log front back : List Event) (source : Driver.Error) (e : Failure) : Prop where
  fails : FailsWith source (turns front)
  /-- What was held when it failed is closed once, the session first; nothing else is asked. -/
  closes : ∃ ofSession ofDriver, turns back = closings (held (log ++ front)) ofSession ofDriver
  reports : e =
    let suppressed := (turns back).filterMap Turn.closingError?
    if source = .interrupted ∧ suppressed = [] then .interrupted else .transport source suppressed

theorem ofTransport_eq (source : Driver.Error) (suppressed : List Driver.Error) :
    Failure.ofTransport source suppressed =
      if source = .interrupted ∧ suppressed = [] then .interrupted
      else .transport source suppressed := by
  cases suppressed with
  | nil => cases source <;> rfl
  | cons e rest => simp [Failure.ofTransport]

/-- Without a session nobody is asked whether it is open. -/
theorem connect_not_refused {d : Connection} {endpoint : Endpoint} {result : Except Failure Unit}
    (hsession : c.link.session? = none)
    (hrun : Runs (handleUses depth) (connect endpoint).run c events result d) (refusal : Refusal) :
    result ≠ .error (.refused refusal) := by
  obtain ⟨first, connected, c₁, second, hlook, hrest, rfl⟩ :=
    Attempt.runs_lift_bind (runs_settle_bind hrun)
  have hlooks := runs_isConnected hlook
  rcases hlooks.firstLook? second with ⟨-, rfl⟩ | ⟨session, hsome, -⟩
  · obtain ⟨third, r, c₂, fourth, -, hend, rfl⟩ := Attempt.runs_lift_bind (Attempt.runs_modify_bind hrest)
    cases r with
    | ok => 
      obtain ⟨-, rfl, -⟩ := Attempt.runs_pure hend
      nofun
    | error source =>
      obtain ⟨_, suppressed, _, _, -, hthrow, -⟩ := Attempt.runs_lift_bind hend
      obtain ⟨-, rfl, -⟩ := Attempt.runs_throw hthrow
      intro heq
      exact ofTransport_ne_refused source suppressed refusal (Except.error.inj heq)
  · rw [applyDiscard_session?, hsession] at hsome
    cases hsome

/-- A connect that does not find the connection open and fails leaves nothing behind, and reports why
it failed and what failed behind that. -/
theorem connect_leavesNothing {interactive : Bool} {endpoint : Endpoint} {e : Failure}
    (h : Visited depth interactive log c)
    (hrun : Runs (handleUses depth) (connect endpoint).run c events (.error e) c')
    (hclosed : ∀ session, firstLook? events ≠ some (session, true)) :
    LeavesNothing depth c' ∧
      ∃ front back source, events = front ++ back ∧ GivesUp log front back source e := by
  obtain ⟨first, connected, c₁, second, hlook, hrest, rfl⟩ :=
    Attempt.runs_lift_bind (runs_settle_bind hrun)
  have hlooks := runs_isConnected hlook
  obtain rfl : connected = false := by
    rcases hlooks.firstLook? second with ⟨-, hfalse⟩ | ⟨session, -, hfirst⟩
    · exact hfalse
    · cases connected with
      | false => rfl
      | true => exact absurd hfirst (hclosed session)
  obtain ⟨⟨howns, -⟩, -⟩ := ensures_of_runs (h.owns.settled.ensures_isConnected id) hlook
  have hactive := howns.setActive endpoint.database
  obtain ⟨third, r, c₂, fourth, hestablish, hend, rfl⟩ :=
    Attempt.runs_lift_bind (Attempt.runs_modify_bind hrest)
  cases r with
  | ok =>
    obtain ⟨-, hok, -⟩ := Attempt.runs_pure hend
    cases hok
  | error source =>
    obtain ⟨back, suppressed, c₃, fifth, htear, hthrow, rfl⟩ := Attempt.runs_lift_bind hend
    obtain ⟨rfl, herror, rfl⟩ := Attempt.runs_throw hthrow
    obtain ⟨driver?, hhas, -⟩ :=
      ensures_of_runs (hactive.toHas.ensures_establish id endpoint) hestablish
    obtain ⟨ts, hts, hfails⟩ :=
      ensures_of_runs_alone (ensures_establish_turns endpoint _) hestablish
    have hgone := ensures_of_runs (hhas.ensures_tearDown id) htear
    obtain ⟨ofSession, ofDriver, _, rfl, hback, hsuppressed, hforgotten⟩ :=
      ensures_of_runs_alone (ensures_tearDown_turns _) htear
    have hvacant := hgone.vacant rfl
    refine ⟨⟨hforgotten, hgone.driver, hvacant.session, ?_, ?_⟩,
      first ++ third, back, source, by simp, ?_, ⟨ofSession, ofDriver, ?_⟩, ?_⟩
    · intro events connected d hrun
      rcases runs_isConnected hrun with hnone | ⟨hsome, -⟩
      · exact ⟨rfl, rfl⟩
      · rw [hvacant.session] at hsome
        cases hsome
    · intro first d endpoint second result c'' refusal huses hrun
      have hundergoes := huses.undergoes fun _ _ _ => handleUses_undergoes
      exact connect_not_refused (hundergoes.session.trans hvacant.session) hrun refusal
    · rw [turns_append, hlooks.turns_eq]
      rw [turns_nil, List.nil_append] at hts
      rw [hts]
      exact (hfails source rfl).behind (looks_failure? _ _)
    · rw [turns_nil, List.nil_append] at hback
      have hheld : held (log ++ first ++ third) = ⟨driver?, c₂.link.session?⟩ := hhas.charge.held
      have hdriver : c₂.link.driver? = driver? := hhas.driver
      rw [hback, ← List.append_assoc, hheld, hdriver]
    · rw [turns_nil, List.nil_append] at hback
      rw [Except.error.inj herror, hsuppressed, ofTransport_eq, hback]

/-- A driver whose session closes itself behind one of the queries, and that can no more be opened
then. Whoever closes its session is interrupted, and it does not close properly itself. -/
def forsaking : (call : Call) → Connection × Bool → List Event × call.Reply × (Connection × Bool)
  | .driver (.isOpen _), (c, gone) => ([], !gone, (c, gone))
  | .driver (.run _ query), (c, gone) => ([], .ok {}, (c, gone || query.text = "RETURN 2"))
  | .driver (.openDriver _), (c, true) => ([], .error (.unavailable "refused"), (c, true))
  | .driver (.closeSession _), (c, gone) =>
    let reset := interrupt.trace Program.willing c
    (.interrupted :: reset.1 ++ [], .error .interrupted, (reset.2.2, gone))
  | .driver (.closeDriver _), cw => ([], .error (.protocol "broken pipe"), cw)
  | call, cw => ([], Program.willing call, cw)

theorem forsaking_uses (call : Call) (cw : Connection × Bool) :
    handleUses 1 cw.1 (forsaking call cw).1 (forsaking call cw).2.2.1 := by
  unfold forsaking
  split
  case h_4 c gone =>
    have hreset := runs_trace (handleUses_quiet 0) Program.willing interrupt c
    exact Uses.reset hreset .none
  all_goals exact handleUses_quiet 1 _

/-- A transaction is open, and the session is gone. -/
theorem leavesNothing_forsaken :
    let before := rehearse forsaking
      [.connect {}, .begin, .runStatement { text := "CREATE (:A);" }, .evaluate { text := "RETURN 2" }]
      ({ interactive := true }, false)
    let again := (connect {}).run.rehearse forsaking before.2
    let e := Failure.transport (.unavailable "refused") [.interrupted, .protocol "broken pipe"]
    Visited 1 true before.1 before.2.1 ∧ before.2.1.transactionOpen = true ∧
      Runs (handleUses 1) (connect {}).run before.2.1 again.1 (.error e) again.2.2.1 ∧
      firstLook? again.1 = some (⟨0⟩, false) ∧ LeavesNothing 1 again.2.2.1 := by
  intro before again e
  have hvisited : Visited 1 true ([] ++ before.1) before.2.1 :=
    visited_rehearse forsaking_uses _ false .new
  rw [List.nil_append] at hvisited
  have hfails : again.2.1 = .error e := by decide +kernel
  have hrun : Runs (handleUses 1) (connect {}).run before.2.1 again.1 (.error e) again.2.2.1 :=
    runs_of_rehearse forsaking_uses rfl hfails
  have hlook : firstLook? again.1 = some (⟨0⟩, false) := by decide +kernel
  have hclosed : ∀ session, firstLook? again.1 ≠ some (session, true) := by
    intro session hopen
    rw [hlook] at hopen
    cases hopen
  exact ⟨hvisited, by decide +kernel, hrun, hlook, (connect_leavesNothing hvisited hrun hclosed).1⟩

end QueryShell.Connection
