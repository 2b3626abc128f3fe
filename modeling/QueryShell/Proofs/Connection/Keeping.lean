import QueryShell.Connection.Transaction
import QueryShell.Proofs.Program.Runs

/-
What never touches an open transaction. Whatever an operation asks of the driver, and whatever
interrupts arrive meanwhile, the queue stays as it is, nothing of it is sent, and an interrupt does
no more than to ask for the transaction to be discarded. `Keeps` says so of a piece of a run.
-/
namespace QueryShell.Connection

open Program

/-! ## What is sent -/

/-- The queries that an event sends in one transaction. -/
def transaction? : Event → Option (List Query)
  | .asked (.driver (.write _ queries)) => some queries
  | _ => none

/-- The query that an event sends in a transaction of its own. -/
def single? : Event → Option Query
  | .asked (.driver (.run _ query)) => some query
  | _ => none

/-- The transactions sent, in their order. -/
def transactions (events : List Event) : List (List Query) :=
  events.filterMap transaction?

/-- The queries sent on their own, in their order. -/
def singles (events : List Event) : List Query :=
  events.filterMap single?

theorem transactions_append (first second : List Event) :
    transactions (first ++ second) = transactions first ++ transactions second :=
  List.filterMap_append

theorem singles_append (first second : List Event) :
    singles (first ++ second) = singles first ++ singles second :=
  List.filterMap_append

/-- The query is the operation's own, or it tests a new session. -/
def Expected (own? : Option Query) (query : Query) : Prop :=
  own? = some query ∨ ∃ database, query = probe database

theorem expected_append {own? : Option Query} {first second : List Event}
    (h₁ : ∀ query ∈ singles first, Expected own? query)
    (h₂ : ∀ query ∈ singles second, Expected own? query) :
    ∀ query ∈ singles (first ++ second), Expected own? query := by
  intro query hquery
  rw [singles_append] at hquery
  rcases List.mem_append.1 hquery with hquery | hquery
  · exact h₁ query hquery
  · exact h₂ query hquery

/-- A call that sends no transaction and no unexpected query. -/
def Harmless (own? : Option Query) : Call → Prop
  | .driver (.write _ _) => False
  | .driver (.run _ query) => Expected own? query
  | _ => True

theorem Harmless.transaction?_eq {own? : Option Query} {x : Call} (h : Harmless own? x) :
    transaction? (.asked x) = none := by
  unfold transaction?
  split
  · rename_i heq
    cases heq
    cases h
  · rfl

theorem Harmless.single?_expected {own? : Option Query} {x : Call} (h : Harmless own? x) :
    ∀ query ∈ single? (.asked x), Expected own? query := by
  intro query hquery
  unfold single? at hquery
  split at hquery
  · rename_i heq
    cases heq
    cases hquery
    exact h
  · cases hquery

/-! ## Keeping a transaction -/

/-- The transaction is as it was, but for a request to discard it that interrupts left. -/
structure Keeps (own? : Option Query) (c : Connection) (events : List Event) (c' : Connection) :
    Prop where
  pending : c'.pending? = c.pending?
  transactionOpen : c'.link.transactionOpen = c.link.transactionOpen
  discardRequested : c'.link.discardRequested = true ↔
    c.link.discardRequested = true ∨ c.link.transactionOpen = true ∧ .interrupted ∈ events
  transactions : transactions events = []
  singles : ∀ query ∈ singles events, Expected own? query

variable {own? : Option Query} {between : Interference Connection}

theorem Keeps.refl (own? : Option Query) (c : Connection) : Keeps own? c [] c :=
  ⟨rfl, rfl, by simp, rfl, fun query hquery => by cases hquery⟩

theorem Keeps.trans {c d c' : Connection} {first second : List Event} (h₁ : Keeps own? c first d)
    (h₂ : Keeps own? d second c') : Keeps own? c (first ++ second) c' := by
  refine ⟨h₂.pending.trans h₁.pending, h₂.transactionOpen.trans h₁.transactionOpen, ?_, ?_,
    expected_append h₁.singles h₂.singles⟩
  · rw [h₂.discardRequested, h₁.discardRequested, h₁.transactionOpen, List.mem_append, or_assoc,
      and_or_left]
  · rw [transactions_append]
    exact List.append_eq_nil_iff.2 ⟨h₁.transactions, h₂.transactions⟩

/-- A piece of a run that sends no query of its own may be part of any operation. -/
theorem Keeps.of_none {c c' : Connection} {events : List Event} (h : Keeps none c events c') :
    Keeps own? c events c' := by
  refine ⟨h.pending, h.transactionOpen, h.discardRequested, h.transactions, ?_⟩
  intro query hquery
  rcases h.singles query hquery with hown | hprobe
  · cases hown
  · exact .inr hprobe

theorem keepsFrame (own? : Option Query) : Frame (Keeps own?) :=
  ⟨Keeps.refl own?, Keeps.trans⟩

/-- A change that touches neither the queue nor the flags. -/
theorem Keeps.of_fields {c c' : Connection} (hpending : c'.pending? = c.pending?)
    (hopen : c'.link.transactionOpen = c.link.transactionOpen)
    (hdiscard : c'.link.discardRequested = c.link.discardRequested) : Keeps own? c [] c' :=
  ⟨hpending, hopen, by simp [hdiscard], rfl, fun query hquery => by cases hquery⟩

/-- An event that sends nothing unexpected and is no interrupt. -/
theorem Keeps.of_event {c : Connection} {e : Event} (hinterrupted : e ≠ .interrupted)
    (htransaction : transaction? e = none)
    (hsingle : ∀ query ∈ single? e, Expected own? query) : Keeps own? c [e] c := by
  refine ⟨rfl, rfl, by simp [Ne.symm hinterrupted], ?_, ?_⟩
  · exact List.filterMap_cons_none htransaction
  · intro query hquery
    obtain ⟨e', he', hsome⟩ := List.mem_filterMap.1 hquery
    rw [List.mem_singleton.1 he'] at hsome
    exact hsingle query hsome

/-! ## Requests to discard -/

@[simp]
theorem requestDiscard_transactionOpen (l : Link) :
    l.requestDiscard.transactionOpen = l.transactionOpen := by
  unfold Link.requestDiscard
  split <;> rfl

theorem requestDiscard_discardRequested (l : Link) :
    l.requestDiscard.discardRequested = true ↔
      l.discardRequested = true ∨ l.transactionOpen = true := by
  unfold Link.requestDiscard
  split <;> simp_all

/-! ## Changes besides the transaction -/

theorem obeys_takeSession : Obeys between (Keeps own?) takeSession :=
  Program.obeys_modifyGet fun _ => .of_fields rfl rfl rfl

theorem obeys_takeDriver : Obeys between (Keeps own?) takeDriver :=
  Program.obeys_modifyGet fun _ => .of_fields rfl rfl rfl

theorem obeys_saveBookmark (latest? : Option Bookmark) :
    Obeys between (Keeps own?) (saveBookmark latest?) :=
  Program.obeys_modifyGet fun _ => .of_fields rfl rfl rfl

theorem obeys_putSession (session : Driver.SessionRef) :
    Obeys between (Keeps own?) (putSession session) :=
  Program.obeys_modify fun _ => .of_fields rfl rfl rfl

theorem obeys_putDriver (driver : Driver.Ref) :
    Obeys between (Keeps own?) (putDriver driver) :=
  Program.obeys_modify fun _ => .of_fields rfl rfl rfl

/-! ## Calls -/

section Programs

variable (hbetween : ∀ c events c', between c events c' → Keeps own? c events c')

include hbetween

theorem obeys_call {x : Call} (hx : Harmless own? x) :
    Obeys between (Keeps own?) (Program.call x) := by
  refine Program.obeys_call fun {c during c'} hduring reply => ?_
  have hasked : Keeps own? c [.asked x] c :=
    .of_event (by simp) hx.transaction?_eq hx.single?_expected
  have hanswered : Keeps own? c' [.answered x reply] c' :=
    .of_event (by simp) rfl fun query hquery => by cases hquery
  exact (hasked.trans (hbetween _ _ _ hduring)).trans hanswered

theorem obeys_driver {x : Driver.Call} (hx : Harmless own? (.driver x)) :
    Obeys between (Keeps own?) (Program.driver x) :=
  obeys_call hbetween hx

theorem obeys_warn (origin : Origin) (text : String) :
    Obeys between (Keeps own?) (Program.warn origin text) :=
  obeys_call hbetween (x := .console (.warn origin text)) trivial

/-! ## Interrupts -/

/-- What an interrupt does behind its request. -/
theorem obeys_giveUp :
    Obeys between (Keeps own?) (onLink do
      if let some session := (← get).session? then
        if let .error e ← Program.driver (.resetSession session) then
          Program.warn .reset s!"Failed to reset session: {e.message}"
      if let some driver := (← get).driver? then
        Program.driver (.interrupt driver)) := by
  have hframe := keepsFrame own?
  have hdriver : Obeys between (Keeps own?) (onLink do
      if let some driver := (← get).driver? then
        Program.driver (.interrupt driver)) := by
    unfold onLink
    rw [zoom_bind]
    refine hframe.obeys_bind hframe.obeys_zoom_get fun l => ?_
    cases l.driver? with
    | none => exact hframe.obeys_pure ()
    | some driver => exact obeys_driver hbetween trivial
  unfold onLink at hdriver ⊢
  rw [zoom_bind]
  refine hframe.obeys_bind hframe.obeys_zoom_get fun l => ?_
  cases l.session? with
  | none => exact hdriver
  | some session =>
    rw [zoom_bind]
    refine hframe.obeys_bind (obeys_driver hbetween trivial) fun reply => ?_
    cases reply with
    | ok => exact hdriver
    | error e =>
      rw [zoom_bind]
      exact hframe.obeys_bind (obeys_warn hbetween _ _) fun _ => hdriver

/-- An interrupt asks for an open transaction to be discarded, and does no more to it. -/
theorem keeps_interrupt {c c' : Connection} {events : List Event}
    (h : Runs between interrupt c events () c') : Keeps own? c (.interrupted :: events) c' := by
  unfold interrupt onLink Link.reset at h
  rw [zoom_bind] at h
  obtain ⟨first, a, d, rest, hfirst, hrest, rfl⟩ := runs_bind h
  obtain ⟨rfl, rfl⟩ := runs_zoom_modify hfirst
  -- the request is made first; what follows keeps it, and all interrupts inside do
  have hkeeps : Keeps own? _ rest c' := obeys_giveUp hbetween _ _ _ _ hrest
  have hopen := hkeeps.transactionOpen
  have hdiscard := hkeeps.discardRequested
  rw [requestDiscard_transactionOpen] at hopen
  rw [requestDiscard_discardRequested, requestDiscard_transactionOpen] at hdiscard
  refine ⟨hkeeps.pending, hopen, ?_, ?_, ?_⟩
  · rw [hdiscard]
    constructor
    · rintro ((h | h) | ⟨h, -⟩)
      · exact .inl h
      · exact .inr ⟨h, List.mem_cons_self⟩
      · exact .inr ⟨h, List.mem_cons_self⟩
    · rintro (h | ⟨h, -⟩)
      · exact .inl (.inl h)
      · exact .inl (.inr h)
  · exact hkeeps.transactions
  · exact hkeeps.singles

theorem obeys_clearInterrupt : Obeys between (Keeps own?) clearInterrupt := by
  have hframe := keepsFrame own?
  unfold clearInterrupt onLink Link.clear
  rw [zoom_bind]
  refine hframe.obeys_bind hframe.obeys_zoom_get fun l => ?_
  cases l.driver? with
  | none => exact hframe.obeys_pure ()
  | some driver => exact obeys_driver hbetween trivial

/-! ## Sessions -/

theorem obeys_openSession? : Obeys between (Keeps own?) openSession? := by
  have hframe := keepsFrame own?
  unfold openSession?
  refine hframe.obeys_bind hframe.obeys_get fun c => ?_
  split
  · exact hframe.obeys_pure none
  · exact hframe.obeys_bind (obeys_driver hbetween trivial) fun _ => hframe.obeys_pure _

theorem obeys_isConnected : Obeys between (Keeps own?) isConnected := by
  have hframe := keepsFrame own?
  exact hframe.obeys_bind (obeys_openSession? hbetween) fun _ => hframe.obeys_pure _

theorem obeys_requireConnected : Obeys between (Keeps own?) requireConnected.run := by
  have hframe := keepsFrame own?
  unfold requireConnected
  refine hframe.attempt_bind (Attempt.obeys_lift (obeys_isConnected hbetween)) fun connected => ?_
  cases connected with
  | true => exact hframe.attempt_pure ()
  | false => exact hframe.attempt_throw _

theorem obeys_requireSession : Obeys between (Keeps own?) requireSession.run := by
  have hframe := keepsFrame own?
  unfold requireSession
  refine hframe.attempt_bind (Attempt.obeys_lift (obeys_openSession? hbetween)) fun session? => ?_
  cases session? with
  | none => exact hframe.attempt_throw _
  | some session => exact hframe.attempt_pure session

theorem obeys_retireSession : Obeys between (Keeps own?) retireSession := by
  have hframe := keepsFrame own?
  unfold retireSession
  refine hframe.obeys_bind obeys_takeSession fun previous? => ?_
  cases previous? with
  | none =>
    refine hframe.obeys_bind (hframe.obeys_pure _) fun latest? => ?_
    exact hframe.obeys_bind (obeys_saveBookmark latest?) fun _ => hframe.obeys_pure _
  | some session =>
    refine hframe.obeys_bind (obeys_driver hbetween trivial) fun latest? => ?_
    refine hframe.obeys_bind (obeys_saveBookmark latest?) fun bookmark? => ?_
    refine hframe.obeys_bind (obeys_driver hbetween trivial) fun reply => ?_
    cases reply with
    | ok => exact hframe.obeys_pure _
    | error e => exact hframe.obeys_bind (obeys_warn hbetween _ _) fun _ => hframe.obeys_pure _

/-- A new session sends nothing but the query that tests it. -/
theorem obeys_reconnect : Obeys between (Keeps own?) reconnect.run := by
  have hframe := keepsFrame own?
  unfold reconnect
  refine hframe.attempt_bind hframe.attempt_get fun c => ?_
  cases c.link.driver? with
  | none => exact hframe.attempt_throw _
  | some driver =>
    refine hframe.attempt_bind (Attempt.obeys_lift (obeys_retireSession hbetween)) fun _ => ?_
    refine hframe.attempt_bind (obeys_driver hbetween trivial) fun _ => ?_
    refine hframe.attempt_bind hframe.attempt_get fun c => ?_
    refine hframe.attempt_bind (obeys_driver hbetween trivial) fun session => ?_
    refine hframe.attempt_bind (Attempt.obeys_lift (obeys_putSession session)) fun _ => ?_
    refine hframe.attempt_bind hframe.attempt_get fun c => ?_
    refine hframe.attempt_bind (obeys_driver hbetween (.inr ⟨c.active, rfl⟩)) fun outcome => ?_
    exact Attempt.obeys_modify fun _ => .of_fields rfl rfl rfl

theorem obeys_establish (endpoint : Endpoint) :
    Obeys between (Keeps own?) (establish endpoint).run := by
  have hframe := keepsFrame own?
  unfold establish
  refine hframe.attempt_bind (obeys_driver hbetween trivial) fun driver => ?_
  refine hframe.attempt_bind (Attempt.obeys_lift (obeys_putDriver driver)) fun _ => ?_
  exact obeys_reconnect hbetween

/-- Something is done that keeps the transaction, and then the connection is forgotten. -/
def Forgets (own? : Option Query) (c : Connection) (events : List Event) (c' : Connection) : Prop :=
  ∃ d, Keeps own? c events d ∧ c' = d.forget

omit hbetween in
theorem obeys_bind_forgets {α β : Type} {p : Program Connection α} {f : α → Program Connection β}
    (hp : Obeys between (Keeps own?) p) (hf : ∀ a, Obeys between (Forgets own?) (f a)) :
    Obeys between (Forgets own?) (p >>= f) := by
  refine obeys_andThen ?_ hp hf
  rintro c d c' before after hkeeps ⟨d', hkeeps', rfl⟩
  exact ⟨d', hkeeps.trans hkeeps', rfl⟩

/-- Session and driver are closed before the connection is forgotten. -/
theorem obeys_tearDown : Obeys between (Forgets own?) tearDown := by
  have hframe := keepsFrame own?
  have hforget : ∀ failures : List Driver.Error, Obeys between (Forgets own?)
      (do modify forget; return failures : Program Connection (List Driver.Error)) := by
    intro failures c events a c' h
    obtain ⟨first, _, d, second, hfirst, hsecond, rfl⟩ := runs_bind h
    obtain ⟨rfl, rfl⟩ := runs_modify hfirst
    obtain ⟨rfl, -, rfl⟩ := runs_pure hsecond
    exact ⟨c, Keeps.refl own? c, rfl⟩
  unfold tearDown
  refine obeys_bind_forgets obeys_takeSession fun session? => ?_
  cases session?
  case' some session =>
    refine obeys_bind_forgets (obeys_driver hbetween trivial) fun reply => ?_
    cases reply
  -- whatever became of the session, the driver comes next
  all_goals
    refine obeys_bind_forgets (hframe.obeys_pure _) fun ofSession => ?_
    refine obeys_bind_forgets obeys_takeDriver fun driver? => ?_
    cases driver?
    case' some driver =>
      refine obeys_bind_forgets (obeys_driver hbetween trivial) fun reply => ?_
      cases reply
    all_goals exact obeys_bind_forgets (hframe.obeys_pure _) fun _ => hforget _

end Programs

/-- A query that is sent at once, on one session or two, is the only one besides the tests. -/
theorem obeys_runNow (query : Query)
    (hbetween : ∀ c events c', between c events c' → Keeps (some query) c events c') :
    Obeys between (Keeps (some query)) (runNow query).run := by
  have hframe := keepsFrame (some query)
  have hrun : ∀ session, Obeys between (Keeps (some query)) (.driver (.run session query)) :=
    fun session => obeys_driver hbetween (.inl rfl)
  have hnote : ∀ outcome : Outcome, Obeys between (Keeps (some query))
      (do modify (noteDatabase outcome.database); return outcome :
        Attempt Connection Failure Outcome).run := by
    intro outcome
    refine hframe.attempt_bind (Attempt.obeys_modify fun _ => .of_fields rfl rfl rfl) fun _ => ?_
    exact hframe.attempt_pure outcome
  unfold runNow
  refine hframe.attempt_bind (obeys_requireSession hbetween) fun session => ?_
  refine hframe.attempt_bind (Attempt.obeys_lift (hrun session)) fun reply => ?_
  rcases reply with e | outcome
  · cases e with
    | sessionExpired =>
      have hagain := Attempt.obeys_mapError Failure.ofDriver (obeys_reconnect hbetween)
      refine hframe.attempt_bind hagain fun _ => ?_
      refine hframe.attempt_bind (obeys_requireSession hbetween) fun session => ?_
      exact hframe.attempt_bind (Attempt.obeys_mapError _ (hrun session)) hnote
    | _ => exact hframe.attempt_bind (hframe.attempt_throw _) hnote
  · exact hframe.attempt_bind (hframe.attempt_pure outcome) hnote

/-- Any number of interrupts, inside each other or not, do no more to the transaction. -/
theorem keeps_interrupts (own? : Option Query) (depth : Nat) (c : Connection) (events : List Event)
    (c' : Connection) (h : interrupts interrupt depth c events c') : Keeps own? c events c' :=
  interrupts_frame (keepsFrame own?)
    (fun _ hbetween _ _ _ hrun => keeps_interrupt hbetween hrun) depth h

end QueryShell.Connection
