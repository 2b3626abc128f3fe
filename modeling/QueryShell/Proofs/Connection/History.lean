import QueryShell.Proofs.Connection.Keeping

/-
What a connection has been asked for, step by step. A history lists the operations with all that
happened while they ran, and the interrupts that arrived between them; every reply of the driver is
possible, and further interrupts may arrive inside any call. `effect_of_runs` says once what a step
can do to the transaction.
-/
namespace QueryShell.Connection

open Program

/-! ## Operations -/

/-- What a connection can be asked for. -/
inductive Operation where
  | connect (endpoint : Endpoint)
  | disconnect
  | switchDatabase (database : String)
  | begin
  | commit
  | rollback
  | runStatement (query : Query)
  | evaluate (query : Query)
  | reset

namespace Operation

/-- The type of an operation's result. -/
@[reducible] def Result : Operation → Type
  | .connect _ => Except Failure Unit
  | .disconnect => Unit
  | .switchDatabase _ => Except Failure Unit
  | .begin => Except Failure Unit
  | .commit => Except Failure (List Outcome)
  | .rollback => Except Failure Unit
  | .runStatement _ => Except Failure (Option Outcome)
  | .evaluate _ => Except Failure Outcome
  | .reset => Unit

/-- What an operation runs. -/
def program : (op : Operation) → Program Connection op.Result
  | .connect endpoint => (Connection.connect endpoint).run
  | .disconnect => Connection.disconnect
  | .switchDatabase database => (Connection.switchDatabase database).run
  | .begin => Connection.begin.run
  | .commit => Connection.commit.run
  | .rollback => Connection.rollback.run
  | .runStatement query => (Connection.runStatement query).run
  | .evaluate query => (Connection.evaluate query).run
  | .reset => Connection.reset

/-- The operation takes the queue, to send it or to forget it. -/
def Takes : Operation → Prop
  | .commit => True
  | .rollback => True
  | _ => False

end Operation

/-! ## Steps -/

/-- One step of a connection's history. -/
inductive Step where
  | operation (op : Operation) (events : List Event) (result : op.Result)
  /-- An interrupt between two operations. -/
  | interrupt (events : List Event)

namespace Step

/-- All that happened. -/
def events : Step → List Event
  | .operation _ events _ => events
  | .interrupt events => .interrupted :: events

/-- The step opens a transaction. -/
def opens : Step → Bool
  | .operation .begin _ (.ok _) => true
  | _ => false

/-- The query that the step puts into the queue. -/
def queued : Step → List Query
  | .operation (.runStatement query) _ (.ok none) => [query]
  | _ => []

/-- The query that the step is asked to send at once. -/
def own? : Step → Option Query
  | .operation (.runStatement _) _ (.ok none) => none
  | .operation (.runStatement query) _ _ => some query
  | .operation (.evaluate query) _ _ => some query
  | _ => none

/-- The step takes the queue. -/
def Takes : Step → Prop
  | .operation op _ _ => op.Takes
  | .interrupt _ => False

/-- The step discards an open transaction: it rolls it back, resets the connection, closes it or
fails to open it, or an interrupt arrives. -/
def Discards : Step → Prop
  | .operation .rollback _ (.ok _) => True
  | .operation .reset _ _ => True
  | .operation .disconnect _ _ => True
  | .operation (.connect _) events (.error e) =>
    e ≠ .refused .alreadyConnected ∨ .interrupted ∈ events
  | .operation _ events _ => .interrupted ∈ events
  | .interrupt _ => True

end Step

/-- What a connection may have been asked for since it is there, and the state it is in now. -/
inductive Reached (depth : Nat) (interactive : Bool) : List Step → Connection → Prop where
  | new : Reached depth interactive [] { interactive }
  | operation {history : List Step} {c c' : Connection} {op : Operation} {events : List Event}
      {result : op.Result} : Reached depth interactive history c →
      Runs (interrupts interrupt depth) op.program c events result c' →
      Reached depth interactive (history ++ [.operation op events result]) c'
  | interrupt {history : List Step} {c c' : Connection} {events : List Event} :
      Reached depth interactive history c →
      Runs (interrupts interrupt depth) Connection.interrupt c events () c' →
      Reached depth interactive (history ++ [.interrupt events]) c'

/-- The history of operations without an interrupt. -/
def replay (respond : (call : Call) → call.Reply) : List Operation → Connection → List Step × Connection
  | [], c => ([], c)
  | op :: rest, c =>
    let (events, result, d) := op.program.trace respond c
    let (history, c') := replay respond rest d
    (.operation op events result :: history, c')

theorem reached_replay {depth : Nat} {interactive : Bool} (respond : (call : Call) → call.Reply)
    (ops : List Operation) {history : List Step} {c : Connection}
    (h : Reached depth interactive history c) :
    Reached depth interactive (history ++ (replay respond ops c).1) (replay respond ops c).2 := by
  induction ops generalizing history c with
  | nil => simpa [replay] using h
  | cons op ops ih =>
    have hrun := runs_trace (interrupts_quiet interrupt depth) respond op.program c
    simpa [replay] using ih (.operation h hrun)

/-! ## Settling -/

variable {own? : Option Query} {between : Interference Connection}

@[simp]
theorem applyDiscard_discardRequested (c : Connection) :
    c.applyDiscard.link.discardRequested = false := by
  unfold applyDiscard
  split
  · rfl
  · rename_i hdiscard
    simpa using hdiscard

@[simp]
theorem applyDiscard_session? (c : Connection) : c.applyDiscard.link.session? = c.link.session? := by
  unfold applyDiscard
  split <;> rfl

/-- A settled connection has no transaction left, if an interrupt asked to discard it. -/
theorem applyDiscard_closed {c : Connection}
    (h : c.link.discardRequested = true ∨ c.pending? = none ∧ c.link.transactionOpen = false) :
    c.applyDiscard.pending? = none ∧ c.applyDiscard.link.transactionOpen = false := by
  unfold applyDiscard
  split
  · exact ⟨rfl, rfl⟩
  · rename_i hdiscard
    exact h.resolve_left hdiscard

@[simp]
theorem enqueue_pending?_isSome (query : Query) (c : Connection) :
    (c.enqueue query).pending?.isSome = c.pending?.isSome :=
  Option.isSome_map

/-- Behind `settle` an operation goes on from the settled connection. -/
theorem runs_settle_bind {α : Type} {f : Unit → Attempt Connection Failure α} {c c' : Connection}
    {events : List Event} {r : Except Failure α} (h : Runs between (settle >>= f).run c events r c') :
    Runs between (f ()).run c.applyDiscard events r c' := by
  obtain ⟨first, a, d, second, hmodify, h, rfl⟩ :=
    Attempt.runs_lift_bind (p := modify applyDiscard) h
  obtain ⟨rfl, rfl⟩ := runs_modify hmodify
  exact h

/-- Behind `requireConnected` an operation goes on, or it was refused. -/
theorem runs_requireConnected_bind {α : Type} {f : Unit → Attempt Connection Failure α}
    {c c' : Connection} {events : List Event} {r : Except Failure α}
    (hbetween : ∀ c events c', between c events c' → Keeps own? c events c')
    (h : Runs between (requireConnected >>= f).run c events r c') :
    (∃ e, r = .error e ∧ Keeps own? c events c') ∨
      ∃ first d second, Keeps own? c first d ∧ Runs between (f ()).run d second r c' ∧
        events = first ++ second := by
  have hkeeps := obeys_requireConnected hbetween
  rcases Attempt.runs_bind h with ⟨e, rfl, hfail⟩ | ⟨first, _, d, second, hfirst, hsecond, rfl⟩
  · exact .inl ⟨e, rfl, hkeeps _ _ _ _ hfail⟩
  · exact .inr ⟨first, d, second, hkeeps _ _ _ _ hfirst, hsecond, rfl⟩

/-- Taking the queue closes the transaction; without one nothing happens. -/
theorem runs_takePending_bind {α : Type} {f : Option (List Query) → Attempt Connection Failure α}
    {c c' : Connection} {events : List Event} {r : Except Failure α}
    (h : Runs between (Attempt.lift takePending >>= f).run c events r c') :
    (c.pending? = none ∧ Runs between (f none).run c events r c') ∨
      ∃ queries, c.pending? = some queries ∧
        Runs between (f (some queries)).run c.dropTransaction events r c' := by
  obtain ⟨first, taken, d, second, htake, hrest, rfl⟩ := Attempt.runs_lift_bind h
  obtain ⟨rfl, htaken, hstate⟩ := runs_modifyGet htake
  cases hpending : c.pending? with
  | none =>
    simp only [hpending] at htaken hstate
    subst htaken hstate
    exact .inl ⟨rfl, hrest⟩
  | some queries =>
    simp only [hpending] at htaken hstate
    subst htaken hstate
    exact .inr ⟨queries, rfl, hrest⟩

/-! ## The effect of a step -/

/-- What a step does to the transaction of a settled connection. -/
inductive Effect (c : Connection) (step : Step) (c' : Connection) : Prop where
  /-- Nothing, but for a request to discard it. -/
  | keeps (hopens : step.opens = false) (hqueued : step.queued = [])
      (hdiscards : step.Discards → .interrupted ∈ step.events)
      (hkeeps : Keeps step.own? c step.events c')
  | opens (hopens : step.opens = true) (d : Connection) (hkeeps : Keeps none c step.events d)
      (hpending : d.pending? = none) (hstate : c' = d.openTransaction)
  | queues (query : Query) (hopens : step.opens = false) (hqueued : step.queued = [query])
      (hdiscards : step.Discards → .interrupted ∈ step.events) (d : Connection)
      (hkeeps : Keeps none c step.events d) (hstate : c' = d.enqueue query)
  /-- It is closed, and sent at most once and as a whole. Unless the queue was taken, no request to
  discard it is left. -/
  | closes (hopens : step.opens = false) (hpending : c'.pending? = none)
      (hclosed : c'.link.transactionOpen = false)
      (hsent : transactions step.events = [] ∨ ∃ events result queries,
        step = .operation .commit events result ∧ transactions step.events = [queries] ∧
        queries ≠ [] ∧ c.pending? = some queries ∧ c.link.discardRequested = false)
      (hsingles : ∀ query ∈ singles step.events, Expected step.own? query)
      (hrequest : step.Takes ∨ c'.link.discardRequested = false)

section Operations

variable (hbetween : ∀ own? c events c', between c events c' → Keeps own? c events c')

include hbetween

/-- A connect leaves the transaction as it is, or it fails and forgets the connection. -/
theorem connect_cases {endpoint : Endpoint} {c c' : Connection} {events : List Event}
    {r : Except Failure Unit} (h : Runs between (connect endpoint).run c events r c') :
    (Keeps none c.applyDiscard events c' ∧ (r = .ok () ∨ r = .error (.refused .alreadyConnected))) ∨
      ∃ e d, Keeps none c.applyDiscard events d ∧ r = .error e ∧ c' = d.forget := by
  have hsettled := runs_settle_bind h
  obtain ⟨first, connected, d, second, hfirst, hrest, rfl⟩ := Attempt.runs_lift_bind hsettled
  have hkeeps : Keeps none c.applyDiscard first d := obeys_isConnected (hbetween none) _ _ _ _ hfirst
  cases connected with
  | true =>
    obtain ⟨rfl, rfl, rfl⟩ := Attempt.runs_throw_bind hrest
    rw [List.append_nil]
    exact .inl ⟨hkeeps, .inr rfl⟩
  | false =>
    have hrest := Attempt.runs_modify_bind hrest
    obtain ⟨third, reply, d', fourth, hestablish, hrest, rfl⟩ := Attempt.runs_lift_bind hrest
    have hactive : Keeps none d [] { d with active := endpoint.database } := .of_fields rfl rfl rfl
    have hopened := obeys_establish (hbetween none) endpoint _ _ _ _ hestablish
    have hkeeps := (hkeeps.trans hactive).trans hopened
    rw [List.append_nil] at hkeeps
    cases reply with
    | ok =>
      obtain ⟨rfl, rfl, rfl⟩ := Attempt.runs_pure hrest
      rw [List.append_nil]
      exact .inl ⟨hkeeps, .inl rfl⟩
    | error source =>
      obtain ⟨fifth, failures, d'', sixth, htear, hthrow, rfl⟩ := Attempt.runs_lift_bind hrest
      obtain ⟨rfl, rfl, rfl⟩ := Attempt.runs_throw hthrow
      obtain ⟨e, hclosed, rfl⟩ := obeys_tearDown (hbetween none) _ _ _ _ htear
      rw [List.append_nil, ← List.append_assoc]
      exact .inr ⟨_, e, hkeeps.trans hclosed, rfl, rfl⟩

theorem effect_connect {endpoint : Endpoint} {c c' : Connection} {events : List Event}
    {r : Except Failure Unit} (h : Runs between (connect endpoint).run c events r c') :
    Effect c.applyDiscard (.operation (.connect endpoint) events r) c' := by
  rcases connect_cases hbetween h with ⟨hkeeps, rfl | rfl⟩ | ⟨e, d, hkeeps, rfl, rfl⟩
  · exact .keeps rfl rfl id hkeeps
  · refine .keeps rfl rfl ?_ hkeeps
    rintro (hne | hmem)
    · exact absurd rfl hne
    · exact hmem
  · exact .closes rfl rfl rfl (.inl hkeeps.transactions) hkeeps.singles (.inr rfl)

/-- A disconnect forgets the connection; all that comes behind that are warnings. -/
theorem disconnect_cases {c c' : Connection} {events : List Event} {r : Unit}
    (h : Runs between disconnect c events r c') :
    ∃ first d second, Keeps none c first d ∧ Keeps none d.forget second c' ∧ events = first ++ second := by
  obtain ⟨first, failures, d, second, htear, hrest, rfl⟩ := runs_bind h
  obtain ⟨d', hclosed, rfl⟩ := obeys_tearDown (hbetween none) _ _ _ _ htear
  have hwarn : Keeps none d'.forget second c' :=
    (keepsFrame none).obeys_forM _ (fun _ => obeys_warn (hbetween none) _ _) failures _ _ _ _ hrest
  exact ⟨first, d', second, hclosed, hwarn, rfl⟩

theorem effect_disconnect {c c' : Connection} {events : List Event} {r : Unit}
    (h : Runs between disconnect c events r c') :
    Effect c (.operation .disconnect events r) c' := by
  obtain ⟨first, d, second, hclosed, hwarn, rfl⟩ := disconnect_cases hbetween h
  have hnone : transactions (first ++ second) = [] := by
    rw [transactions_append, hclosed.transactions, hwarn.transactions]
    rfl
  have hrequest : c'.link.discardRequested = false := by
    rw [Bool.eq_false_iff, Ne, hwarn.discardRequested]
    rintro (hdiscard | ⟨hopen, -⟩)
    · cases hdiscard
    · cases hopen
  exact .closes rfl hwarn.pending hwarn.transactionOpen (.inl hnone)
    (expected_append hclosed.singles hwarn.singles) (.inr hrequest)

/-- A switch behind its check for an open transaction. -/
theorem keeps_switch {database : String} {c c' : Connection} {events : List Event}
    {r : Except Failure Unit} (h : Runs between (switchDatabase database).run c events r c') :
    Keeps none c.applyDiscard events c' := by
  have hframe := keepsFrame none
  have hreconnect := obeys_reconnect (hbetween none)
  have hactivate : ∀ name, Obeys between (Keeps none) (activate name) := fun name =>
    Program.obeys_modifyGet fun _ => .of_fields rfl rfl rfl
  have hsettled := Attempt.runs_get_bind (runs_settle_bind h)
  -- an open transaction refuses the switch, and nothing below touches one
  split at hsettled
  · obtain ⟨rfl, -, rfl⟩ := Attempt.runs_throw_bind hsettled
    exact Keeps.refl none _
  have hconnected := Attempt.obeys_lift (ε := Failure) (obeys_isConnected (hbetween none))
  refine hframe.attempt_bind (Attempt.obeys_lift (hactivate database)) (fun previous => ?_)
    _ _ _ _ hsettled
  refine hframe.attempt_bind hconnected fun connected => ?_
  cases connected with
  | false => exact hframe.attempt_pure ()
  | true =>
    refine hframe.attempt_bind (Attempt.obeys_lift hreconnect) fun reply => ?_
    cases reply with
    | ok => exact hframe.attempt_pure ()
    | error source =>
      refine hframe.attempt_bind hframe.attempt_get fun d => ?_
      split
      · refine hframe.attempt_bind (Attempt.obeys_lift (hactivate previous)) fun _ => ?_
        refine hframe.attempt_bind (Attempt.obeys_lift hreconnect) fun reply => ?_
        cases reply with
        | ok => exact hframe.attempt_throw_bind _ _
        | error e => exact hframe.attempt_throw_bind _ _
      · exact hframe.attempt_throw _

theorem effect_switchDatabase {database : String} {c c' : Connection} {events : List Event}
    {r : Except Failure Unit} (h : Runs between (switchDatabase database).run c events r c') :
    Effect c.applyDiscard (.operation (.switchDatabase database) events r) c' :=
  .keeps rfl rfl id (keeps_switch hbetween h)

theorem effect_begin {c c' : Connection} {events : List Event} {r : Except Failure Unit}
    (h : Runs between begin.run c events r c') :
    Effect c.applyDiscard (.operation .begin events r) c' := by
  rcases runs_requireConnected_bind (hbetween none) (runs_settle_bind h) with
    ⟨e, rfl, hkeeps⟩ | ⟨first, d, second, hkeeps, hrest, rfl⟩
  · exact .keeps rfl rfl id hkeeps
  have hrest := Attempt.runs_get_bind hrest
  by_cases hpending : d.pending?.isSome
  · rw [if_pos hpending] at hrest
    obtain ⟨rfl, rfl, rfl⟩ := Attempt.runs_throw_bind hrest
    rw [List.append_nil]
    exact .keeps rfl rfl id hkeeps
  · rw [if_neg hpending] at hrest
    obtain ⟨rfl, rfl, rfl⟩ := Attempt.runs_modify hrest
    rw [List.append_nil]
    exact .opens rfl d hkeeps (by simpa using hpending) rfl

/-- A transaction that is sent is sent once; the queue and the flag stay as they are meanwhile. -/
theorem runs_write {session : Driver.SessionRef} {queries : List Query} {c c' : Connection}
    {events : List Event} {r : Except Failure (List Outcome)}
    (h : Runs between (Attempt.mapError .ofDriver (Attempt.ofProgram
      (Program.driver (.write session queries)))).run c events r c') :
    c'.pending? = c.pending? ∧ c'.link.transactionOpen = c.link.transactionOpen ∧
      transactions events = [queries] ∧ ∀ query ∈ singles events, Expected none query := by
  obtain ⟨reply, -, hwrite⟩ := Attempt.runs_mapError h
  obtain ⟨during, hduring, rfl⟩ := runs_driver hwrite
  have hkeeps := hbetween none _ _ _ hduring
  refine ⟨hkeeps.pending, hkeeps.transactionOpen, ?_, ?_⟩
  · show queries :: transactions (during ++ [_]) = [queries]
    rw [transactions_append, hkeeps.transactions]
    rfl
  · show ∀ query ∈ singles (during ++ [_]), Expected none query
    exact expected_append hkeeps.singles fun query hquery => by cases hquery

/-- A commit behind the queue that it took: the queue is sent, unless the session is gone. -/
theorem runs_send {queries : List Query} {c c' : Connection} {events : List Event}
    {r : Except Failure (List Outcome)}
    (h : Runs between (do
      let session ← requireSession
      let outcomes ← (Attempt.ofProgram (.driver (.write session queries))).mapError .ofDriver
      modify (noteDatabase (outcomes.getLast?.bind (·.database)))
      return outcomes : Attempt Connection Failure (List Outcome)).run c events r c') :
    c'.pending? = c.pending? ∧ c'.link.transactionOpen = c.link.transactionOpen ∧
      (transactions events = [] ∨ transactions events = [queries]) ∧
      ∀ query ∈ singles events, Expected none query := by
  have hsession := obeys_requireSession (hbetween none)
  rcases Attempt.runs_bind h with ⟨e, rfl, hfail⟩ | ⟨first, session, d, second, hfirst, hrest, rfl⟩
  · have hkeeps := hsession _ _ _ _ hfail
    exact ⟨hkeeps.pending, hkeeps.transactionOpen, .inl hkeeps.transactions, hkeeps.singles⟩
  have hkeeps := hsession _ _ _ _ hfirst
  have hsent : c'.pending? = d.pending? ∧ c'.link.transactionOpen = d.link.transactionOpen ∧
      transactions second = [queries] ∧ ∀ query ∈ singles second, Expected none query := by
    rcases Attempt.runs_bind hrest with
      ⟨e, rfl, hfail⟩ | ⟨third, outcomes, d', fourth, hthird, hnote, rfl⟩
    · exact runs_write hbetween hfail
    · have hend := Attempt.runs_modify_bind hnote
      obtain ⟨rfl, rfl, rfl⟩ := Attempt.runs_pure hend
      obtain ⟨hpending, hopen, hsent⟩ := runs_write hbetween hthird
      rw [List.append_nil]
      exact ⟨hpending, hopen, hsent⟩
  obtain ⟨hpending, hopen, htransactions, hsingles⟩ := hsent
  refine ⟨hpending.trans hkeeps.pending, hopen.trans hkeeps.transactionOpen, .inr ?_,
    expected_append hkeeps.singles hsingles⟩
  rw [transactions_append, hkeeps.transactions, htransactions]
  rfl

theorem effect_commit {c c' : Connection} {events : List Event} {r : Except Failure (List Outcome)}
    (h : Runs between commit.run c events r c') :
    Effect c.applyDiscard (.operation .commit events r) c' := by
  rcases runs_requireConnected_bind (hbetween none) (runs_settle_bind h) with
    ⟨e, rfl, hkeeps⟩ | ⟨first, d, second, hkeeps, hrest, rfl⟩
  · exact .keeps rfl rfl id hkeeps
  rcases runs_takePending_bind hrest with ⟨-, hnone⟩ | ⟨queries, hpending, hsome⟩
  · obtain ⟨rfl, rfl, rfl⟩ := Attempt.runs_throw hnone
    rw [List.append_nil]
    exact .keeps rfl rfl id hkeeps
  have hqueue := hkeeps.pending.symm.trans hpending
  -- the transaction is closed from here on, whether there is anything to send or not
  cases queries with
  | nil =>
    obtain ⟨rfl, rfl, rfl⟩ := Attempt.runs_pure hsome
    rw [List.append_nil]
    exact .closes rfl rfl rfl (.inl hkeeps.transactions) hkeeps.singles (.inl trivial)
  | cons query queries =>
    obtain ⟨hnone, hclosed, hsent, hsingles⟩ := runs_send hbetween hsome
    have hall := transactions_append first second
    rw [hkeeps.transactions, List.nil_append] at hall
    refine .closes rfl hnone hclosed ?_ (expected_append hkeeps.singles hsingles) (.inl trivial)
    rcases hsent with hsent | hsent
    · exact .inl (hall.trans hsent)
    · exact .inr ⟨first ++ second, r, query :: queries, rfl, hall.trans hsent, by simp, hqueue,
        applyDiscard_discardRequested c⟩

theorem effect_rollback {c c' : Connection} {events : List Event} {r : Except Failure Unit}
    (h : Runs between rollback.run c events r c') :
    Effect c.applyDiscard (.operation .rollback events r) c' := by
  rcases runs_requireConnected_bind (hbetween none) (runs_settle_bind h) with
    ⟨e, rfl, hkeeps⟩ | ⟨first, d, second, hkeeps, hrest, rfl⟩
  · exact .keeps rfl rfl id hkeeps
  rcases runs_takePending_bind hrest with ⟨-, hnone⟩ | ⟨queries, hpending, hsome⟩
  · obtain ⟨rfl, rfl, rfl⟩ := Attempt.runs_throw hnone
    rw [List.append_nil]
    exact .keeps rfl rfl id hkeeps
  · obtain ⟨rfl, rfl, rfl⟩ := Attempt.runs_pure hsome
    rw [List.append_nil]
    exact .closes rfl rfl rfl (.inl hkeeps.transactions) hkeeps.singles (.inl trivial)

theorem effect_runStatement {query : Query} {c c' : Connection} {events : List Event}
    {r : Except Failure (Option Outcome)} (h : Runs between (runStatement query).run c events r c') :
    Effect c.applyDiscard (.operation (.runStatement query) events r) c' := by
  rcases runs_requireConnected_bind (hbetween none) (runs_settle_bind h) with
    ⟨e, rfl, hkeeps⟩ | ⟨first, d, second, hkeeps, hrest, rfl⟩
  · exact .keeps rfl rfl id hkeeps.of_none
  have hrest := Attempt.runs_get_bind hrest
  by_cases hpending : d.pending?.isSome
  · rw [if_pos hpending] at hrest
    have hend := Attempt.runs_modify_bind hrest
    obtain ⟨rfl, rfl, rfl⟩ := Attempt.runs_pure hend
    rw [List.append_nil]
    exact .queues query rfl rfl id d hkeeps rfl
  · rw [if_neg hpending] at hrest
    have hrun := obeys_runNow query (hbetween (some query))
    have hkeeps : Keeps (some query) c.applyDiscard first d := hkeeps.of_none
    rcases Attempt.runs_bind hrest with ⟨e, rfl, hfail⟩ | ⟨third, outcome, d', fourth, hok, hend, rfl⟩
    · exact .keeps rfl rfl id (hkeeps.trans (hrun _ _ _ _ hfail))
    · obtain ⟨rfl, rfl, rfl⟩ := Attempt.runs_pure hend
      rw [List.append_nil]
      exact .keeps rfl rfl id (hkeeps.trans (hrun _ _ _ _ hok))

theorem effect_evaluate {query : Query} {c c' : Connection} {events : List Event}
    {r : Except Failure Outcome} (h : Runs between (evaluate query).run c events r c') :
    Effect c.applyDiscard (.operation (.evaluate query) events r) c' := by
  rcases runs_requireConnected_bind (hbetween (some query)) (runs_settle_bind h) with
    ⟨e, rfl, hkeeps⟩ | ⟨first, d, second, hkeeps, hrest, rfl⟩
  · exact .keeps rfl rfl id hkeeps
  · have hrun := obeys_runNow query (hbetween (some query)) _ _ _ _ hrest
    exact .keeps rfl rfl id (hkeeps.trans hrun)

theorem effect_reset {c c' : Connection} {events : List Event} {r : Unit}
    (hcoherent : c.link.transactionOpen = c.pending?.isSome)
    (h : Runs between reset c events r c') :
    Effect c (.operation .reset events r) c' := by
  obtain ⟨first, _, d, second, hinterrupt, hrest, rfl⟩ := runs_bind h
  obtain ⟨third, _, d', fourth, hclear, hmodify, rfl⟩ := runs_bind hrest
  obtain ⟨rfl, rfl⟩ := runs_modify hmodify
  have hkeeps := keeps_interrupt (hbetween none) hinterrupt
  have hall := hkeeps.trans (obeys_clearInterrupt (hbetween none) _ _ _ _ hclear)
  -- a reset interrupts itself: with a transaction open, its own request closes it
  have hclosed : d'.applyDiscard.pending? = none ∧ d'.applyDiscard.link.transactionOpen = false := by
    apply applyDiscard_closed
    rw [hall.discardRequested, hall.pending, hall.transactionOpen, hcoherent]
    cases c.pending? with
    | none => exact .inr ⟨rfl, rfl⟩
    | some queries => exact .inl (.inr ⟨rfl, by simp⟩)
  rw [List.append_nil]
  exact .closes rfl hclosed.1 hclosed.2 (.inl hall.transactions) hall.singles
    (.inr (applyDiscard_discardRequested d'))

end Operations

/-- The queue is there exactly while the transaction is open. -/
def Coherent (c : Connection) : Prop :=
  c.link.transactionOpen = c.pending?.isSome

theorem Coherent.settled {c : Connection} (h : Coherent c) : Coherent c.applyDiscard := by
  unfold applyDiscard
  split
  · rfl
  · exact h

/-- Every step keeps the transaction of the link beside the queue. -/
theorem Effect.coherent {c c' : Connection} {step : Step} (h : Effect c step c') (hc : Coherent c) :
    Coherent c' := by
  unfold Coherent at hc ⊢
  cases h with
  | keeps _ _ _ hkeeps => rw [hkeeps.transactionOpen, hkeeps.pending, hc]
  | opens _ d _ _ hstate =>
    subst hstate
    rfl
  | queues query _ _ _ d hkeeps hstate =>
    subst hstate
    rw [enqueue_pending?_isSome, hkeeps.pending, ← hc]
    exact hkeeps.transactionOpen
  | closes _ hpending hclosed => rw [hpending, hclosed, Option.isSome_none]

/-- What any operation does to the transaction: it settles the connection, if it is none of those
that close the transaction in any case, and then has one of the four effects. -/
theorem effect_of_runs (hbetween : ∀ own? c events c', between c events c' → Keeps own? c events c')
    {op : Operation} {c c' : Connection} {events : List Event} {result : op.Result}
    (hcoherent : Coherent c) (h : Runs between op.program c events result c') :
    Effect c (.operation op events result) c' ∨
      Effect c.applyDiscard (.operation op events result) c' := by
  cases op with
  | connect endpoint => exact .inr (effect_connect hbetween h)
  | disconnect => exact .inl (effect_disconnect hbetween h)
  | switchDatabase database => exact .inr (effect_switchDatabase hbetween h)
  | begin => exact .inr (effect_begin hbetween h)
  | commit => exact .inr (effect_commit hbetween h)
  | rollback => exact .inr (effect_rollback hbetween h)
  | runStatement query => exact .inr (effect_runStatement hbetween h)
  | evaluate query => exact .inr (effect_evaluate hbetween h)
  | reset => exact .inl (effect_reset hbetween hcoherent h)

theorem effect_of_interrupt {depth : Nat} {c c' : Connection} {events : List Event}
    (h : Runs (interrupts interrupt depth) Connection.interrupt c events () c') :
    Effect c (.interrupt events) c' :=
  .keeps rfl rfl (fun _ => List.mem_cons_self)
    (keeps_interrupt (fun c events c' => keeps_interrupts none depth c events c') h)

/-! ## The queue behind a step -/

theorem applyDiscard_pending? {c : Connection} {queries : List Query}
    (h : c.applyDiscard.pending? = some queries) : c.pending? = some queries := by
  unfold applyDiscard at h
  split at h
  · cases h
  · exact h

/-- Whether an operation settles the connection or not, it begins with a queue beside the transaction,
and with no other one than before. -/
theorem exists_effect {c c' : Connection} {step : Step} (hcoherent : Coherent c)
    (h : Effect c step c' ∨ Effect c.applyDiscard step c') :
    ∃ settled, Coherent settled ∧
      (∀ queries, settled.pending? = some queries → c.pending? = some queries) ∧
      Effect settled step c' := by
  rcases h with h | h
  · exact ⟨c, hcoherent, fun _ => id, h⟩
  · exact ⟨c.applyDiscard, hcoherent.settled, fun _ => applyDiscard_pending?, h⟩

/-- A queue is new and empty, or it is the queue before with what was queued behind it. -/
theorem Effect.pending {c c' : Connection} {step : Step} (h : Effect c step c') {queries : List Query}
    (hqueries : c'.pending? = some queries) : (step.opens = true ∧ queries = []) ∨
      (step.opens = false ∧
        ∃ before, c.pending? = some before ∧ queries = before ++ step.queued) := by
  cases h with
  | keeps hopens hqueued _ hkeeps =>
    rw [hkeeps.pending] at hqueries
    exact .inr ⟨hopens, queries, hqueries, by simp [hqueued]⟩
  | opens hopens d _ _ hstate =>
    subst hstate
    cases hqueries
    exact .inl ⟨hopens, rfl⟩
  | queues query hopens hqueued _ d hkeeps hstate =>
    subst hstate
    obtain ⟨before, hbefore, rfl⟩ := Option.map_eq_some_iff.1 hqueries
    rw [hkeeps.pending] at hbefore
    exact .inr ⟨hopens, before, hbefore, by rw [hqueued]⟩
  | closes _ hpending =>
    rw [hpending] at hqueries
    cases hqueries

/-- Only the queue is sent as a transaction. -/
theorem Effect.transactions {c c' : Connection} {step : Step} (h : Effect c step c')
    {queries : List Query} (hqueries : queries ∈ transactions step.events) :
    c.pending? = some queries := by
  cases h with
  | keeps _ _ _ hkeeps =>
    rw [hkeeps.transactions] at hqueries
    cases hqueries
  | opens _ d hkeeps =>
    rw [hkeeps.transactions] at hqueries
    cases hqueries
  | queues _ _ _ _ d hkeeps =>
    rw [hkeeps.transactions] at hqueries
    cases hqueries
  | closes _ _ _ hsent _ =>
    rcases hsent with hsent | ⟨events, result, sent, -, hsent, -, hsome, -⟩
    · rw [hsent] at hqueries
      cases hqueries
    · rw [hsent] at hqueries
      rw [List.mem_singleton.1 hqueries]
      exact hsome

end QueryShell.Connection
