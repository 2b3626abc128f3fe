import QueryShell.Proofs.Connection.Representation

/-
Which operations are refused, and what a refusal leaves. `Operation.refusal?` is the whole table: it
needs to know whether the session is open and whether a transaction is, and nothing else. All
operations look at the session at most once before they are accepted, and change nothing until then
but for the transaction that an interrupt asked to discard.
-/
namespace QueryShell.Connection

open Program

/-! ## The table -/

namespace Operation

/-- Why an operation is refused, given whether there is an open session and an open transaction. -/
def refusal? (connected transactionOpen : Bool) : Operation → Option Refusal
  | .connect _ => if connected then some .alreadyConnected else none
  | .switchDatabase _ => if transactionOpen then some .transactionOpenOnSwitch else none
  | .begin =>
    if !connected then some .notConnected else if transactionOpen then some .transactionOpen else none
  | .commit =>
    if !connected then some .notConnected else if transactionOpen then none else some .nothingToCommit
  | .rollback =>
    if !connected then some .notConnected else if transactionOpen then none else some .nothingToRollBack
  | .runStatement _ => if connected then none else some .notConnected
  | .evaluate _ => if connected then none else some .notConnected
  | .disconnect => none
  | .reset => none

/-- How an operation failed, if it did. -/
def failure? : (op : Operation) → op.Result → Option Failure
  | .connect _, .error e => some e
  | .switchDatabase _, .error e => some e
  | .begin, .error e => some e
  | .commit, .error e => some e
  | .rollback, .error e => some e
  | .runStatement _, .error e => some e
  | .evaluate _, .error e => some e
  | _, _ => none

end Operation

theorem ofDriver_ne_refused (e : Driver.Error) (r : Refusal) : Failure.ofDriver e ≠ .refused r := by
  cases e <;> simp [Failure.ofDriver]

theorem ofTransport_ne_refused (source : Driver.Error) (suppressed : List Driver.Error)
    (r : Refusal) : Failure.ofTransport source suppressed ≠ .refused r := by
  cases suppressed with
  | nil => exact ofDriver_ne_refused source r
  | cons e rest => simp [Failure.ofTransport]

/-! ## Looking at the session -/

/-- What an event tells of a session: whether it is open. -/
def look? : Event → Option (Driver.SessionRef × Bool)
  | .answered (.driver (.isOpen session)) isOpen => some (session, isOpen)
  | _ => none

/-- What is told of a session first. -/
def firstLook? (events : List Event) : Option (Driver.SessionRef × Bool) :=
  events.findSome? look?

/-- The session, if there is one, was looked at; meanwhile nothing but the handle was used. -/
inductive Looks (depth : Nat) (c : Connection) : List Event → Bool → Connection → Prop where
  | nothing : c.link.session? = none → Looks depth c [] false c
  | session {session : Driver.SessionRef} {during : List Event} {isOpen : Bool} {d : Connection} :
      c.link.session? = some session → handleUses depth c during d →
      Looks depth c (.asked (.driver (.isOpen session)) :: during ++
        [.answered (.driver (.isOpen session)) isOpen]) isOpen d

variable {depth : Nat} {c c' d : Connection} {events first second : List Event}

theorem OfHandle.look?_eq {e : Event} (h : OfHandle e) : look? e = none := by
  unfold look?
  split
  · cases h
  · rfl

theorem Looks.attends {connected : Bool} (h : Looks depth c events connected d) :
    ∃ during, Attends c during d := by
  cases h with
  | nothing => exact ⟨[], .refl c⟩
  | session _ huses => exact ⟨_, handleUses_attends huses⟩

theorem Looks.session?_eq {connected : Bool} (h : Looks depth c events connected d) :
    d.link.session? = c.link.session? := by
  obtain ⟨during, hattends⟩ := h.attends
  rw [hattends.rest]

theorem Looks.firstLook? {connected : Bool} (h : Looks depth c first connected d)
    (second : List Event) :
    (c.link.session? = none ∧ connected = false) ∨ ∃ session, c.link.session? = some session ∧
      Connection.firstLook? (first ++ second) = some (session, connected) := by
  cases h with
  | nothing hnone => exact .inl ⟨hnone, rfl⟩
  | @session session during isOpen d hsession huses =>
    refine .inr ⟨session, hsession, ?_⟩
    have hduring : during.findSome? look? = none :=
      List.findSome?_eq_none_iff.2 fun e he => ((handleUses_undergoes huses).ofHandle e he).look?_eq
    unfold Connection.firstLook?
    rw [List.append_assoc, List.cons_append]
    show (during ++ _).findSome? look? = _
    rw [List.findSome?_append, hduring]
    rfl

/-- The session was found open if it was open when the operation began. -/
theorem Looks.connected_eq {connected : Bool} (h : Looks depth c first connected d)
    {isOpen : Driver.SessionRef → Bool}
    (hlook : ∀ session answer, Connection.firstLook? (first ++ second) = some (session, answer) →
      answer = isOpen session) : connected = c.link.session?.any isOpen := by
  rcases h.firstLook? second with ⟨hnone, rfl⟩ | ⟨session, hsession, hfirst⟩
  · rw [hnone]
    rfl
  · rw [hsession]
    exact hlook session connected hfirst

theorem runs_openSession? {session? : Option Driver.SessionRef}
    (h : Runs (handleUses depth) openSession? c events session? d) :
    Looks depth c events session?.isSome d ∧
      ∀ session, session? = some session → c.link.session? = some session := by
  unfold openSession? at h
  obtain ⟨first, c₁, t, second, hget, hrest, rfl⟩ := runs_bind h
  obtain ⟨rfl, rfl, rfl⟩ := runs_get hget
  cases hsession : t.link.session? with
  | none =>
    rw [hsession] at hrest
    obtain ⟨rfl, rfl, rfl⟩ := runs_pure hrest
    exact ⟨.nothing hsession, nofun⟩
  | some session =>
    rw [hsession] at hrest
    obtain ⟨third, isOpen, t', fourth, hcall, hpure, rfl⟩ := runs_bind hrest
    obtain ⟨during, hduring, rfl⟩ := runs_driver hcall
    obtain ⟨rfl, rfl, rfl⟩ := runs_pure hpure
    simp only [List.nil_append, List.append_nil]
    cases isOpen with
    | false => exact ⟨.session hsession hduring, nofun⟩
    | true => exact ⟨.session hsession hduring, fun _ => id⟩

theorem runs_isConnected {connected : Bool}
    (h : Runs (handleUses depth) isConnected c events connected d) :
    Looks depth c events connected d := by
  obtain ⟨first, session?, t, second, hopen, hpure, rfl⟩ := runs_bind h
  obtain ⟨rfl, rfl, rfl⟩ := runs_pure hpure
  rw [List.append_nil]
  exact (runs_openSession? hopen).1

/-- An operation that needs a connection looks at the session, and goes on if it is open. -/
theorem runs_looks {α : Type} {f : Unit → Attempt Connection Failure α} {r : Except Failure α}
    (h : Runs (handleUses depth) (settle >>= fun _ => requireConnected >>= f).run c events r c') :
    (Looks depth c.applyDiscard events false c' ∧ r = .error (.refused .notConnected)) ∨
      ∃ first d second, Looks depth c.applyDiscard first true d ∧
        Runs (handleUses depth) (f ()).run d second r c' ∧ events = first ++ second := by
  have hrequire := runs_settle_bind h
  rcases Attempt.runs_bind hrequire with ⟨e, rfl, hfail⟩ | ⟨first, a, d, second, hok, hrest, rfl⟩
  · obtain ⟨looked, connected, d, rest, hlook, hthrow, rfl⟩ := Attempt.runs_lift_bind hfail
    cases connected with
    | true => cases (Attempt.runs_pure hthrow).2.1
    | false =>
      obtain ⟨rfl, herror, rfl⟩ := Attempt.runs_throw hthrow
      cases herror
      rw [List.append_nil]
      exact .inl ⟨runs_isConnected hlook, rfl⟩
  · obtain ⟨looked, connected, d', rest, hlook, hthrow, rfl⟩ := Attempt.runs_lift_bind hok
    cases connected with
    | false => cases (Attempt.runs_throw hthrow).2.1
    | true =>
      obtain ⟨rfl, -, rfl⟩ := Attempt.runs_pure hthrow
      rw [List.append_nil]
      exact .inr ⟨looked, d, second, runs_isConnected hlook, hrest, rfl⟩

/-! ## What a refusal leaves -/

/-- Nothing was done but to look at the session, and all that can be seen is as it was. -/
structure Untouched (depth : Nat) (c : Connection) (events : List Event) (c' : Connection) : Prop where
  /-- Besides the handle, the session is all that was asked about. -/
  looks : events = [] ∨ ∃ session during isOpen, c.link.session? = some session ∧
    handleUses depth c.applyDiscard during c' ∧
    events = .asked (.driver (.isOpen session)) :: during ++
      [.answered (.driver (.isOpen session)) isOpen]
  interactive : c'.interactive = c.interactive
  driver : c'.link.driver? = c.link.driver?
  session : c'.link.session? = c.link.session?
  active : c'.active = c.active
  actual : c'.actual? = c.actual?
  version : c'.reported? = c.reported?
  bookmark : c'.bookmark? = c.bookmark?
  pending : c.transactionOpen = true → c'.pending? = c.pending?
  transactionOpen : .interrupted ∉ events → c'.transactionOpen = c.transactionOpen

/-- A transaction that is to be discarded is not open any more, and that is all that settling sees
to. -/
theorem applyDiscard_transactionOpen (c : Connection) :
    c.applyDiscard.transactionOpen = c.transactionOpen := by
  unfold applyDiscard transactionOpen
  split
  · rename_i hdiscard
    simp [hdiscard, dropTransaction]
  · rfl

theorem applyDiscard_pending?_isSome (c : Connection) :
    c.applyDiscard.pending?.isSome = c.transactionOpen := by
  rw [← applyDiscard_transactionOpen]
  simp [transactionOpen]

/-- Settling leaves all that can be seen as it was. -/
theorem untouched_applyDiscard (depth : Nat) (c : Connection) :
    Untouched depth c [] c.applyDiscard := by
  have hopen := applyDiscard_transactionOpen c
  unfold applyDiscard at hopen ⊢
  split
  · rename_i hdiscard
    refine ⟨.inl rfl, rfl, rfl, rfl, rfl, rfl, rfl, rfl, fun htransaction => ?_, fun _ => ?_⟩
    · simp [transactionOpen, hdiscard] at htransaction
    · rwa [if_pos hdiscard] at hopen
  · exact ⟨.inl rfl, rfl, rfl, rfl, rfl, rfl, rfl, rfl, fun _ => rfl, fun _ => rfl⟩

theorem Looks.untouched {connected : Bool} (h : Looks depth c.applyDiscard events connected c') :
    Untouched depth c events c' := by
  have hsettled := untouched_applyDiscard depth c
  cases h with
  | nothing => exact hsettled
  | @session session during _ _ hfound huses =>
    have hrest := (handleUses_attends huses).rest
    refine ⟨.inr ⟨session, during, connected, hsettled.session ▸ hfound, huses, rfl⟩, ?_, ?_, ?_, ?_,
      ?_, ?_, ?_, ?_, fun hmem => ?_⟩
    all_goals rw [hrest]
    · exact hsettled.interactive
    · exact hsettled.driver
    · exact hsettled.session
    · exact hsettled.active
    · exact hsettled.actual
    · exact hsettled.version
    · exact hsettled.bookmark
    · exact hsettled.pending
    · have hquiet : .interrupted ∉ during := fun hduring =>
        hmem (List.mem_append_left _ (List.mem_cons_of_mem _ hduring))
      rw [← hsettled.transactionOpen List.not_mem_nil]
      unfold Connection.transactionOpen
      rw [(handleUses_undergoes huses).calm hquiet]

/-! ## The protocol -/

/-- A look at the session found it open, and a later one closed. -/
def LostLater (events : List Event) : Prop :=
  ∃ first second session session', events = first ++ second ∧
    .answered (.driver (.isOpen session)) true ∈ first ∧
    .answered (.driver (.isOpen session')) false ∈ second

/-- The table decides: what it refuses fails for its reason and leaves nothing, and what it lets pass
is refused no more, unless the session is lost meanwhile. -/
structure Guarded (depth : Nat) (refusal? : Option Refusal) (c : Connection) (events : List Event)
    (failure? : Option Failure) (c' : Connection) : Prop where
  refused : ∀ r, refusal? = some r → failure? = some (.refused r) ∧ Untouched depth c events c'
  accepted : refusal? = none → ∀ r, failure? = some (.refused r) →
    r = .notConnected ∧ LostLater events

variable {failure? : Option Failure} {isOpen : Driver.SessionRef → Bool}

theorem Guarded.of_refused {r : Refusal} (h : Untouched depth c events c') :
    Guarded depth (some r) c events (some (.refused r)) c' := by
  refine ⟨fun r' hr' => ?_, nofun⟩
  cases hr'
  exact ⟨rfl, h⟩

theorem Guarded.of_accepted
    (h : ∀ r, failure? = some (.refused r) → r = .notConnected ∧ LostLater events) :
    Guarded depth none c events failure? c' :=
  ⟨nofun, fun _ => h⟩

/-- What an operation found when it looked at the session first. -/
theorem Looks.found {connected : Bool} (h : Looks depth c.applyDiscard first connected d)
    (hlook : ∀ session answer, Connection.firstLook? (first ++ second) = some (session, answer) →
      answer = isOpen session) : c.link.session?.any isOpen = connected := by
  rw [h.connected_eq hlook, applyDiscard_session?]

theorem Looks.pending?_isSome {connected : Bool} (h : Looks depth c.applyDiscard first connected d) :
    d.pending?.isSome = c.transactionOpen := by
  obtain ⟨during, hattends⟩ := h.attends
  rw [hattends.rest]
  exact applyDiscard_pending?_isSome c

theorem Looks.session?_isSome (h : Looks depth c first true d) : d.link.session?.isSome = true := by
  cases h with
  | session hsession huses =>
    rw [(handleUses_undergoes huses).session, hsession]
    rfl

theorem Looks.mem {connected : Bool} (h : Looks depth c events connected d)
    (hsession : c.link.session?.isSome = true) :
    ∃ session, .answered (.driver (.isOpen session)) connected ∈ events := by
  cases h with
  | nothing hnone =>
    rw [hnone] at hsession
    cases hsession
  | @session session _ _ _ _ _ => exact ⟨session, by simp⟩

theorem Looks.lostLater (h : Looks depth c first true d)
    (hlost : ∃ session, .answered (.driver (.isOpen session)) false ∈ second) :
    LostLater (first ++ second) := by
  obtain ⟨session', hsecond⟩ := hlost
  cases h with
  | @session session _ _ _ _ _ => exact ⟨_, second, session, session', rfl, by simp, hsecond⟩

theorem runs_requireSession {r : Except Failure Driver.SessionRef}
    (h : Runs (handleUses depth) requireSession.run c events r c') :
    (∃ session, r = .ok session ∧ Looks depth c events true c') ∨
      r = .error (.refused .notConnected) ∧ Looks depth c events false c' := by
  obtain ⟨first, session?, d, second, hopen, hrest, rfl⟩ := Attempt.runs_lift_bind h
  obtain ⟨hlooks, -⟩ := runs_openSession? hopen
  cases session? with
  | none =>
    obtain ⟨rfl, rfl, rfl⟩ := Attempt.runs_throw hrest
    rw [List.append_nil]
    exact .inr ⟨rfl, hlooks⟩
  | some session =>
    obtain ⟨rfl, rfl, rfl⟩ := Attempt.runs_pure hrest
    rw [List.append_nil]
    exact .inl ⟨session, rfl, hlooks⟩

/-- What a driver fails with is no refusal. -/
theorem runs_mapError_ofDriver {α : Type} {p : Attempt Connection Driver.Error α} {r : Refusal}
    (h : Runs (handleUses depth) (p.mapError Failure.ofDriver).run c events
      (.error (Failure.refused r)) c') :
    False := by
  obtain ⟨e | a, hr, -⟩ := Attempt.runs_mapError h
  · exact ofDriver_ne_refused e r (Except.error.inj hr).symm
  · cases hr

/-! ### Operations -/

theorem guarded_connect {endpoint : Endpoint} {r : Except Failure Unit}
    (h : Runs (handleUses depth) (connect endpoint).run c events r c')
    (hlook : ∀ session answer, Connection.firstLook? events = some (session, answer) →
      answer = isOpen session) :
    Guarded depth ((Operation.connect endpoint).refusal? (c.link.session?.any isOpen) c.transactionOpen)
      c events ((Operation.connect endpoint).failure? r) c' := by
  obtain ⟨first, connected, d, second, hfirst, hrest, rfl⟩ :=
    Attempt.runs_lift_bind (runs_settle_bind h)
  have hlooks := runs_isConnected hfirst
  rw [hlooks.found hlook]
  cases connected with
  | true =>
    obtain ⟨rfl, rfl, rfl⟩ := Attempt.runs_throw_bind hrest
    rw [List.append_nil]
    exact .of_refused hlooks.untouched
  | false =>
    refine .of_accepted fun refusal hrefused => ?_
    have hopen := Attempt.runs_modify_bind hrest
    obtain ⟨third, reply, d', fourth, -, hend, rfl⟩ := Attempt.runs_lift_bind hopen
    cases reply with
    | ok =>
      obtain ⟨-, rfl, -⟩ := Attempt.runs_pure hend
      cases hrefused
    | error source =>
      obtain ⟨_, failures, _, _, -, hthrow, -⟩ := Attempt.runs_lift_bind hend
      obtain ⟨-, rfl, -⟩ := Attempt.runs_throw hthrow
      exact absurd (Option.some.inj hrefused) (ofTransport_ne_refused source failures refusal)

theorem guarded_switchDatabase {database : String} {r : Except Failure Unit}
    (h : Runs (handleUses depth) (switchDatabase database).run c events r c') (connected : Bool) :
    Guarded depth ((Operation.switchDatabase database).refusal? connected c.transactionOpen) c events
      ((Operation.switchDatabase database).failure? r) c' := by
  have hsettled := Attempt.runs_get_bind (runs_settle_bind h)
  rw [applyDiscard_transactionOpen] at hsettled
  unfold Operation.refusal?
  split at hsettled
  · rename_i hopen
    obtain ⟨rfl, rfl, rfl⟩ := Attempt.runs_throw_bind hsettled
    rw [if_pos hopen]
    exact .of_refused (untouched_applyDiscard depth c)
  · rename_i hopen
    rw [if_neg hopen]
    refine .of_accepted fun refusal hrefused => ?_
    obtain ⟨first, previous, d, second, -, hrest, rfl⟩ := Attempt.runs_lift_bind hsettled
    obtain ⟨third, found, d', fourth, -, hrest, rfl⟩ := Attempt.runs_lift_bind hrest
    cases found with
    | false =>
      obtain ⟨-, rfl, -⟩ := Attempt.runs_pure hrest
      cases hrefused
    | true =>
      obtain ⟨fifth, reply, d'', sixth, -, hrest, rfl⟩ := Attempt.runs_lift_bind hrest
      cases reply with
      | ok =>
        obtain ⟨-, rfl, -⟩ := Attempt.runs_pure hrest
        cases hrefused
      | error source =>
        suffices hfailed : ∃ suppressed, r = .error (.ofTransport source suppressed) by
          obtain ⟨suppressed, rfl⟩ := hfailed
          exact absurd (Option.some.inj hrefused) (ofTransport_ne_refused source suppressed refusal)
        have hrest := Attempt.runs_get_bind hrest
        split at hrest
        · obtain ⟨_, _, _, _, -, hrest, -⟩ := Attempt.runs_lift_bind hrest
          obtain ⟨_, again, _, _, -, hrest, -⟩ := Attempt.runs_lift_bind hrest
          cases again with
          | ok => exact ⟨_, (Attempt.runs_throw_bind hrest).2.1⟩
          | error e => exact ⟨_, (Attempt.runs_throw_bind hrest).2.1⟩
        · exact ⟨_, (Attempt.runs_throw hrest).2.1⟩

/-- An operation that needs a connection is refused without one, and goes on with one. -/
theorem guarded_of_looks {α : Type} {f : Unit → Attempt Connection Failure α} {r : Except Failure α}
    (refusal? : Bool → Option Refusal) (failure? : Except Failure α → Option Failure)
    (h : Runs (handleUses depth) (settle >>= fun _ => requireConnected >>= f).run c events r c')
    (hlook : ∀ session answer, Connection.firstLook? events = some (session, answer) →
      answer = isOpen session) (hrefusal : refusal? false = some .notConnected)
    (hfailure : failure? (.error (.refused .notConnected)) = some (.refused .notConnected))
    (hgoes : ∀ first d second, Looks depth c.applyDiscard first true d →
      Runs (handleUses depth) (f ()).run d second r c' →
        Guarded depth (refusal? true) c (first ++ second) (failure? r) c') :
    Guarded depth (refusal? (c.link.session?.any isOpen)) c events (failure? r) c' := by
  rcases runs_looks h with ⟨hlooks, rfl⟩ | ⟨first, d, second, hlooks, hrest, rfl⟩
  · rw [← List.append_nil events] at hlook
    rw [hlooks.found hlook, hrefusal, hfailure]
    exact .of_refused hlooks.untouched
  · rw [hlooks.found hlook]
    exact hgoes first d second hlooks hrest

theorem guarded_begin {r : Except Failure Unit} (h : Runs (handleUses depth) begin.run c events r c')
    (hlook : ∀ session answer, Connection.firstLook? events = some (session, answer) →
      answer = isOpen session) :
    Guarded depth (Operation.begin.refusal? (c.link.session?.any isOpen) c.transactionOpen) c events
      (Operation.begin.failure? r) c' := by
  refine guarded_of_looks (fun connected => Operation.begin.refusal? connected c.transactionOpen)
    Operation.begin.failure? h hlook rfl rfl fun first d second hlooks hrest => ?_
  rw [← hlooks.pending?_isSome]
  have hrest := Attempt.runs_get_bind hrest
  split at hrest
  · rename_i hpending
    obtain ⟨rfl, rfl, rfl⟩ := Attempt.runs_throw_bind hrest
    rw [hpending, List.append_nil]
    exact .of_refused hlooks.untouched
  · rename_i hpending
    obtain ⟨rfl, rfl, rfl⟩ := Attempt.runs_modify hrest
    rw [Bool.not_eq_true] at hpending
    rw [hpending]
    exact .of_accepted nofun

theorem guarded_commit {r : Except Failure (List Outcome)}
    (h : Runs (handleUses depth) commit.run c events r c')
    (hlook : ∀ session answer, Connection.firstLook? events = some (session, answer) →
      answer = isOpen session) :
    Guarded depth (Operation.commit.refusal? (c.link.session?.any isOpen) c.transactionOpen) c events
      (Operation.commit.failure? r) c' := by
  refine guarded_of_looks (fun connected => Operation.commit.refusal? connected c.transactionOpen)
    Operation.commit.failure? h hlook rfl rfl fun first d second hlooks hrest => ?_
  rw [← hlooks.pending?_isSome]
  rcases runs_takePending_bind hrest with ⟨hpending, hnone⟩ | ⟨queries, hpending, hsome⟩
  · obtain ⟨rfl, rfl, rfl⟩ := Attempt.runs_throw hnone
    rw [hpending, List.append_nil]
    exact .of_refused hlooks.untouched
  rw [hpending]
  refine .of_accepted fun refusal hrefused => ?_
  cases queries with
  | nil =>
    obtain ⟨-, rfl, -⟩ := Attempt.runs_pure hsome
    cases hrefused
  | cons query queries =>
    have hsession : d.dropTransaction.link.session?.isSome = true := hlooks.session?_isSome
    rcases Attempt.runs_bind hsome with ⟨e, rfl, hfail⟩ | ⟨third, session, d', fourth, -, hsend, rfl⟩
    · rcases runs_requireSession hfail with ⟨session, hr, -⟩ | ⟨hr, hagain⟩
      · cases hr
      · cases hr
        cases hrefused
        exact ⟨rfl, hlooks.lostLater (hagain.mem hsession)⟩
    · rcases Attempt.runs_bind hsend with ⟨e, rfl, hfail⟩ | ⟨_, outcomes, _, _, -, hend, -⟩
      · cases hrefused
        exact (runs_mapError_ofDriver hfail).elim
      · have hend := Attempt.runs_modify_bind hend
        obtain ⟨-, rfl, -⟩ := Attempt.runs_pure hend
        cases hrefused

theorem guarded_rollback {r : Except Failure Unit}
    (h : Runs (handleUses depth) rollback.run c events r c')
    (hlook : ∀ session answer, Connection.firstLook? events = some (session, answer) →
      answer = isOpen session) :
    Guarded depth (Operation.rollback.refusal? (c.link.session?.any isOpen) c.transactionOpen) c events
      (Operation.rollback.failure? r) c' := by
  refine guarded_of_looks (fun connected => Operation.rollback.refusal? connected c.transactionOpen)
    Operation.rollback.failure? h hlook rfl rfl fun first d second hlooks hrest => ?_
  rw [← hlooks.pending?_isSome]
  rcases runs_takePending_bind hrest with ⟨hpending, hnone⟩ | ⟨queries, hpending, hsome⟩
  · obtain ⟨rfl, rfl, rfl⟩ := Attempt.runs_throw hnone
    rw [hpending, List.append_nil]
    exact .of_refused hlooks.untouched
  · obtain ⟨-, rfl, -⟩ := Attempt.runs_pure hsome
    rw [hpending]
    exact .of_accepted nofun

/-- A new session is there, if it could be opened. -/
theorem runs_reconnect_ok (h : Runs (handleUses depth) reconnect.run c events (.ok ()) c') :
    c'.link.session?.isSome = true := by
  have hensures : Ensures (asks (handleUses depth)) reconnect.run
      (fun r s => r = .ok () → s.1.link.session?.isSome = true) (c, []) := by
    unfold reconnect
    rw [Attempt.ensures_get_bind]
    cases c.link.driver? with
    | none => exact nofun
    | some driver =>
      refine (Attempt.ensures_lift_bind _ _ _ _).2 (ensures_always (fun bookmark? s => ?_) _)
      refine (Attempt.ensures_bind _ _ _ _).2 (ensures_always ?_ _)
      rintro (e | _) s
      · exact nofun
      refine (Attempt.ensures_get_bind _ _ _).2 ?_
      refine (Attempt.ensures_bind _ _ _ _).2 (ensures_always ?_ _)
      rintro (e | session) s
      · exact nofun
      refine (Attempt.ensures_lift_bind _ _ _ _).2 ?_
      unfold putSession
      rw [ensures_modify, Attempt.ensures_get_bind, Attempt.ensures_bind]
      refine (ensures_call (.driver (.run session _)) _ _).2 fun reply s' hasks => ?_
      obtain ⟨during, hduring, -⟩ := hasks
      cases reply with
      | error e => exact nofun
      | ok outcome =>
        intro _
        show s'.1.link.session?.isSome = true
        rw [(handleUses_undergoes hduring).session]
        rfl
  exact ensures_of_runs hensures h rfl

/-- A query that is sent at once is only refused if the session was lost. -/
theorem runs_runNow_refused {query : Query} {r : Refusal}
    (h : Runs (handleUses depth) (runNow query).run c events (.error (.refused r)) c')
    (hsession : c.link.session?.isSome = true) :
    r = .notConnected ∧ ∃ session, .answered (.driver (.isOpen session)) false ∈ events := by
  rcases Attempt.runs_bind h with ⟨e, he, hfail⟩ | ⟨first, session, d, second, -, hrest, rfl⟩
  · cases he
    rcases runs_requireSession hfail with ⟨session, hr, -⟩ | ⟨hr, hagain⟩
    · cases hr
    · cases hr
      exact ⟨rfl, hagain.mem hsession⟩
  have hnote : ∀ {outcome : Outcome} {d : Connection} {events : List Event},
      ¬ Runs (handleUses depth) (do modify (noteDatabase outcome.database); return outcome :
        Attempt Connection Failure Outcome).run d events (.error (.refused r)) c' := by
    intro outcome d events hnote
    have hend := Attempt.runs_modify_bind hnote
    cases (Attempt.runs_pure hend).2.1
  obtain ⟨third, reply, d', fourth, -, hrest, rfl⟩ := Attempt.runs_lift_bind hrest
  cases reply with
  | ok outcome => exact (hnote hrest).elim
  | error e =>
    cases e with
    | sessionExpired message =>
      rcases Attempt.runs_bind hrest with ⟨e, he, hfail⟩ | ⟨fifth, _, d'', sixth, hagain, hopened, rfl⟩
      · cases he
        exact (runs_mapError_ofDriver hfail).elim
      obtain ⟨reply, hreply, hagain⟩ := Attempt.runs_mapError hagain
      obtain rfl : reply = .ok () := by
        cases reply with
        | ok => rfl
        | error e => cases hreply
      -- the new session is in the link, but may be lost before the query is sent again
      have hopen := runs_reconnect_ok hagain
      rcases Attempt.runs_bind hopened with ⟨e, he, hfail⟩ | ⟨_, session', _, _, -, hrun, -⟩
      · cases he
        rcases runs_requireSession hfail with ⟨session, hr, -⟩ | ⟨hr, hlost⟩
        · cases hr
        · cases hr
          obtain ⟨session', hmem⟩ := hlost.mem hopen
          exact ⟨rfl, session', by simp [hmem]⟩
      rcases Attempt.runs_bind hrun with ⟨e, he, hfail⟩ | ⟨_, outcome, _, _, -, hend, -⟩
      · cases he
        exact (runs_mapError_ofDriver hfail).elim
      · exact (hnote hend).elim
    | _ => cases (Attempt.runs_throw_bind hrest).2.1

theorem guarded_runStatement {query : Query} {r : Except Failure (Option Outcome)}
    (h : Runs (handleUses depth) (runStatement query).run c events r c')
    (hlook : ∀ session answer, Connection.firstLook? events = some (session, answer) →
      answer = isOpen session) :
    Guarded depth ((Operation.runStatement query).refusal? (c.link.session?.any isOpen)
      c.transactionOpen) c events ((Operation.runStatement query).failure? r) c' := by
  refine guarded_of_looks (fun connected => (Operation.runStatement query).refusal? connected c.transactionOpen)
    (Operation.runStatement query).failure? h hlook rfl rfl fun first d second hlooks hrest => ?_
  refine .of_accepted fun refusal hrefused => ?_
  have hrest := Attempt.runs_get_bind hrest
  split at hrest
  · have hend := Attempt.runs_modify_bind hrest
    obtain ⟨-, rfl, -⟩ := Attempt.runs_pure hend
    cases hrefused
  · rcases Attempt.runs_bind hrest with ⟨e, rfl, hfail⟩ | ⟨_, outcome, _, _, -, hend, -⟩
    · cases hrefused
      obtain ⟨rfl, hlost⟩ := runs_runNow_refused hfail hlooks.session?_isSome
      exact ⟨rfl, hlooks.lostLater hlost⟩
    · obtain ⟨-, rfl, -⟩ := Attempt.runs_pure hend
      cases hrefused

theorem guarded_evaluate {query : Query} {r : Except Failure Outcome}
    (h : Runs (handleUses depth) (evaluate query).run c events r c')
    (hlook : ∀ session answer, Connection.firstLook? events = some (session, answer) →
      answer = isOpen session) :
    Guarded depth ((Operation.evaluate query).refusal? (c.link.session?.any isOpen) c.transactionOpen)
      c events ((Operation.evaluate query).failure? r) c' := by
  refine guarded_of_looks (fun connected => (Operation.evaluate query).refusal? connected c.transactionOpen)
    (Operation.evaluate query).failure? h hlook rfl rfl fun first d second hlooks hrest => ?_
  refine .of_accepted fun refusal hrefused => ?_
  cases r with
  | ok outcome => cases hrefused
  | error e =>
    cases hrefused
    obtain ⟨rfl, hlost⟩ := runs_runNow_refused hrest hlooks.session?_isSome
    exact ⟨rfl, hlooks.lostLater hlost⟩

/-- Behind its look at the session a query is queued inside a transaction, and sent outside of one. -/
theorem runs_runStatement_queued {query : Query} {r : Except Failure (Option Outcome)}
    (h : Runs (handleUses depth) (runStatement query).run c events r c')
    (hlook : ∀ session answer, Connection.firstLook? events = some (session, answer) →
      answer = isOpen session) (hconnected : c.link.session?.any isOpen = true) :
    (c.transactionOpen = true ∧ r = .ok none ∧ c'.pending? = c.pending?.map (· ++ [query]) ∧
      ∀ e ∈ events, target? e = none) ∨
      c.transactionOpen = false ∧ r ≠ .ok none ∧ c'.pending? = none := by
  rcases runs_looks h with ⟨hlooks, rfl⟩ | ⟨first, d, second, hlooks, hrest, rfl⟩
  · rw [← List.append_nil events] at hlook
    rw [hlooks.found hlook] at hconnected
    cases hconnected
  have hopen := hlooks.pending?_isSome
  have hrest := Attempt.runs_get_bind hrest
  split at hrest
  · rename_i hpending
    have hend := Attempt.runs_modify_bind hrest
    obtain ⟨rfl, rfl, rfl⟩ := Attempt.runs_pure hend
    rw [List.append_nil]
    rw [hpending] at hopen
    refine .inl ⟨hopen.symm, rfl, ?_, ?_⟩
    · show d.pending?.map (· ++ [query]) = _
      rw [hlooks.untouched.pending hopen.symm]
    · cases hlooks with
      | session hsession huses =>
        have hof := (handleUses_undergoes huses).ofHandle
        intro e he
        simp only [List.cons_append, List.mem_cons, List.mem_append, List.not_mem_nil, or_false] at he
        rcases he with rfl | he | rfl
        · rfl
        · exact (hof e he).target?_eq
        · rfl
  · rename_i hpending
    rw [Bool.not_eq_true] at hpending
    rw [hpending] at hopen
    have hnone : d.pending? = none := by simpa using hpending
    have hbetween : ∀ c events c', handleUses depth c events c' → Keeps (some query) c events c' :=
      fun _ _ _ => handleUses_keeps
    have hkeeps := obeys_runNow query hbetween
    rcases Attempt.runs_bind hrest with ⟨e, rfl, hfail⟩ | ⟨third, outcome, d', fourth, hok, hend, rfl⟩
    · exact .inr ⟨hopen.symm, nofun, (hkeeps _ _ _ _ hfail).pending.trans hnone⟩
    · obtain ⟨-, rfl, rfl⟩ := Attempt.runs_pure hend
      exact .inr ⟨hopen.symm, nofun, (hkeeps _ _ _ _ hok).pending.trans hnone⟩

/-- How an operation is let pass or refused, on a connection in state `c` on which `connected` says
whether there is an open session. -/
structure Admitted (depth : Nat) (connected : Bool) (c : Connection) (op : Operation)
    (events : List Event) (result : op.Result) (c' : Connection) : Prop
    extends Guarded depth (op.refusal? connected c.transactionOpen) c events (op.failure? result)
      c' where
  /-- A query that is let pass is queued while a transaction is open, and then nothing is sent. -/
  queued : ∀ query, op = .runStatement query → connected = true → c.transactionOpen = true →
    (Step.operation op events result).queued = [query] ∧
      c'.pending? = c.pending?.map (· ++ [query]) ∧ ∀ e ∈ events, target? e = none
  /-- Without a transaction it is not queued. -/
  direct : ∀ query, op = .runStatement query → connected = true → c.transactionOpen = false →
    (Step.operation op events result).queued = [] ∧ c'.pending? = none

theorem Guarded.admitted {connected : Bool} {op : Operation} {result : op.Result}
    (h : Guarded depth (op.refusal? connected c.transactionOpen) c events (op.failure? result) c')
    (hop : ∀ query, op ≠ .runStatement query) :
    Admitted depth connected c op events result c' :=
  ⟨h, fun query heq => absurd heq (hop query), fun query heq => absurd heq (hop query)⟩

/-- The table of refusals is kept to in every state, whatever drivers answer and whenever the reset
handle is used. What counts of the session is what the driver says when it is asked first. -/
theorem runs_admitted {op : Operation} {result : op.Result}
    (hrun : Runs (handleUses depth) op.program c events result c')
    (hlook : ∀ session answer, Connection.firstLook? events = some (session, answer) →
      answer = isOpen session) :
    Admitted depth (c.link.session?.any isOpen) c op events result c' := by
  have hnever : Guarded depth none c events none c' := .of_accepted nofun
  cases op with
  | connect endpoint => exact (guarded_connect hrun hlook).admitted nofun
  | switchDatabase database => exact (guarded_switchDatabase hrun _).admitted nofun
  | begin => exact (guarded_begin hrun hlook).admitted nofun
  | commit => exact (guarded_commit hrun hlook).admitted nofun
  | rollback => exact (guarded_rollback hrun hlook).admitted nofun
  | evaluate query => exact (guarded_evaluate hrun hlook).admitted nofun
  | disconnect => exact hnever.admitted nofun
  | reset => exact hnever.admitted nofun
  | runStatement query =>
    have hqueued := runs_runStatement_queued hrun hlook
    refine ⟨guarded_runStatement hrun hlook, ?_, ?_⟩
    · rintro query' hsame hconnected hopen
      cases hsame
      rcases hqueued hconnected with ⟨-, rfl, hpending, hsilent⟩ | ⟨hclosed, -⟩
      · exact ⟨rfl, hpending, hsilent⟩
      · exact absurd (hclosed.symm.trans hopen) Bool.false_ne_true
    · rintro query' hsame hconnected hclosed
      rcases hqueued hconnected with ⟨hopen, -⟩ | ⟨-, hne, hpending⟩
      · exact absurd (hclosed.symm.trans hopen) Bool.false_ne_true
      · refine ⟨?_, hpending⟩
        unfold Step.queued
        split
        · rename_i heq
          cases heq
          exact absurd rfl hne
        · rfl

/-- Without a transaction there is nothing to commit, which shows when the session has been looked
at. -/
theorem admitted_commitOutside :
    let run := replay Program.willing [.connect {}] { interactive := true }
    let step := Operation.commit.program.trace Program.willing run.2
    run.2.transactionOpen = false ∧ firstLook? step.1 = some (⟨0⟩, true) ∧
      Operation.commit.failure? step.2.1 = some (.refused .nothingToCommit) ∧
      Admitted 0 (run.2.link.session?.any fun _ => true) run.2 .commit step.1 step.2.1 step.2.2 := by
  intro run step
  have hrun : Runs (handleUses 0) Operation.commit.program run.2 step.1 step.2.1 step.2.2 :=
    runs_trace (handleUses_quiet 0) Program.willing _ run.2
  have hfirst : firstLook? step.1 = some (⟨0⟩, true) := by decide +kernel
  refine ⟨by decide +kernel, hfirst, by decide +kernel, runs_admitted hrun ?_⟩
  intro session answer hanswer
  rw [hfirst] at hanswer
  cases hanswer
  rfl

end QueryShell.Connection
