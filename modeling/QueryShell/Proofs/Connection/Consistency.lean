import QueryShell.Proofs.Connection.Refusals
import QueryShell.Proofs.Http.Chaining

/-
How the parts of a connection fit together between two operations: the flags follow the queue, a
session comes with its driver, and an open session is one that this driver opened on the active
database.

An interrupt asks for an open transaction to be discarded, so behind an operation a request has its
transaction beside it. There is one exception. A commit or a rollback takes the queue as soon as it
knows that the session is open; a request that comes in before it knows is left behind, without
anything to discard, until the next operation takes it back.
-/
namespace QueryShell.Connection

open Program Http

variable {depth : Nat} {interactive : Bool} {c c' d : Connection}
  {log events first second : List Event}

/-! ## Interrupted looks -/

/-- What happens until it is known whether the session is open. -/
def untilLook (events : List Event) : List Event :=
  events.takeWhile fun e => (look? e).isNone

/-- An interrupt arrives before it is known that the session is open. -/
def InterruptedLook (events : List Event) : Prop :=
  .interrupted ∈ untilLook events ∧ ∃ session, firstLook? events = some (session, true)

/-- The first look is over with its answer. -/
theorem interruptedLook_append {during : List Event} {session : Driver.SessionRef} {isOpen : Bool}
    (hduring : ∀ e ∈ during, look? e = none) :
    InterruptedLook (during ++ .answered (.driver (.isOpen session)) isOpen :: second) ↔
      .interrupted ∈ during ∧ isOpen = true := by
  have huntil : untilLook (during ++ .answered (.driver (.isOpen session)) isOpen :: second) =
      during := by
    unfold untilLook
    rw [List.takeWhile_append_of_pos fun e he => by rw [hduring e he]; rfl]
    exact List.append_nil during
  have hfirst : firstLook? (during ++ .answered (.driver (.isOpen session)) isOpen :: second) =
      some (session, isOpen) := by
    unfold firstLook?
    rw [List.findSome?_append, List.findSome?_eq_none_iff.2 hduring]
    rfl
  unfold InterruptedLook
  rw [huntil, hfirst]
  simp

/-- Until its answer is there, nothing tells whether the session is open. -/
theorem unanswered {session : Driver.SessionRef} {during : List Event}
    (hduring : handleUses depth c during d) :
    ∀ e ∈ .asked (.driver (.isOpen session)) :: during, look? e = none :=
  List.forall_mem_cons.2 ⟨rfl, fun e he => ((handleUses_undergoes hduring).ofHandle e he).look?_eq⟩

/-- A look that found the session open was interrupted, or nothing came in. -/
theorem Looks.interruptedLook_iff (h : Looks depth c first true d) :
    InterruptedLook (first ++ second) ↔ .interrupted ∈ first := by
  cases h with
  | session _ hduring =>
    rw [List.append_assoc, List.singleton_append, interruptedLook_append (unanswered hduring)]
    simp

theorem Looks.not_interruptedLook (h : Looks depth c events false d) : ¬ InterruptedLook events := by
  cases h with
  | nothing => exact fun h => List.not_mem_nil h.1
  | session _ hduring =>
    rw [interruptedLook_append (unanswered hduring)]
    simp

theorem Looks.keeps {connected : Bool} (h : Looks depth c events connected d) :
    Keeps none c events d := by
  cases h with
  | nothing => exact .refl none c
  | @session session during isOpen d _ hduring =>
    have hasked : Keeps none c [.asked (.driver (.isOpen session))] c := .of_event (by simp) rfl nofun
    exact (hasked.trans (handleUses_keeps hduring)).trans (.of_event (by simp) rfl nofun)

/-! ## Requests and the queue -/

/-- A request to discard has a transaction to discard. -/
def Justified (c : Connection) : Prop :=
  c.link.discardRequested = true → c.pending?.isSome = true

theorem Keeps.justified {own? : Option Query} (h : Keeps own? c events c') (hcoherent : Coherent c)
    (hc : Justified c) : Justified c' := by
  intro hdiscard
  rw [h.pending]
  rcases h.discardRequested.1 hdiscard with hdiscard | ⟨hopen, -⟩
  · exact hc hdiscard
  · exact hcoherent.symm.trans hopen

/-- No step leaves a request without a transaction, unless it takes the queue. -/
theorem Effect.justified {step : Step} (h : Effect c step c') (hcoherent : Coherent c)
    (hc : Justified c) (htakes : ¬ step.Takes) : Justified c' := by
  cases h with
  | keeps _ _ _ hkeeps => exact hkeeps.justified hcoherent hc
  | opens _ d _ _ hstate =>
    subst hstate
    exact fun _ => rfl
  | queues query _ _ _ d hkeeps hstate =>
    subst hstate
    intro hdiscard
    rw [enqueue_pending?_isSome]
    exact hkeeps.justified hcoherent hc hdiscard
  | closes _ _ _ _ _ hrequest =>
    intro hdiscard
    rw [hrequest.resolve_left htakes] at hdiscard
    cases hdiscard

/-- An operation that does not take the queue leaves no request without a transaction, whatever it
found. -/
theorem justified_of_runs {op : Operation} {result : op.Result} (hop : ¬ op.Takes)
    (hcoherent : Coherent c) (h : Runs (handleUses depth) op.program c events result c') :
    Justified c' := by
  have hbetween : ∀ own? c events c', handleUses depth c events c' → Keeps own? c events c' :=
    fun _ _ _ _ => handleUses_keeps
  have hsettled : ∀ {step : Step}, Effect c.applyDiscard step c' → ¬ step.Takes → Justified c' :=
    fun heffect => heffect.justified hcoherent.settled (by simp [Justified])
  cases op with
  | connect endpoint => exact hsettled (effect_connect hbetween h) hop
  | switchDatabase name => exact hsettled (effect_switchDatabase hbetween h) hop
  | begin => exact hsettled (effect_begin hbetween h) hop
  | runStatement query => exact hsettled (effect_runStatement hbetween h) hop
  | evaluate query => exact hsettled (effect_evaluate hbetween h) hop
  | commit => exact absurd trivial hop
  | rollback => exact absurd trivial hop
  | disconnect =>
    obtain ⟨first, d, second, -, hwarn, -⟩ := disconnect_cases hbetween h
    exact hwarn.justified rfl nofun
  | reset =>
    obtain ⟨first, _, d, second, -, hrest, -⟩ := runs_bind h
    obtain ⟨third, _, d', fourth, -, hmodify, -⟩ := runs_bind hrest
    obtain ⟨-, rfl⟩ := runs_modify hmodify
    simp [Justified]

/-! ## Taking the queue -/

/-- A transaction that is closed stays closed, and nobody asks for it to be discarded. -/
def KeepsClosed (c : Connection) (_ : List Event) (c' : Connection) : Prop :=
  c.link.transactionOpen = false → c'.link.transactionOpen = false ∧
    c'.link.discardRequested = c.link.discardRequested ∧ c'.pending? = c.pending?

theorem KeepsClosed.frame : Frame KeepsClosed := by
  refine ⟨fun c hclosed => ⟨hclosed, rfl, rfl⟩, fun h₁ h₂ hclosed => ?_⟩
  obtain ⟨hclosed, hdiscard, hpending⟩ := h₁ hclosed
  obtain ⟨hclosed, hdiscard', hpending'⟩ := h₂ hclosed
  exact ⟨hclosed, hdiscard'.trans hdiscard, hpending'.trans hpending⟩

theorem Keeps.keepsClosed {own? : Option Query} (h : Keeps own? c events c') :
    KeepsClosed c events c' := by
  intro hclosed
  refine ⟨h.transactionOpen.trans hclosed, Bool.eq_iff_iff.2 ?_, h.pending⟩
  rw [h.discardRequested, hclosed]
  simp

/-- What a commit does with the queue that it took. -/
theorem obeys_send (queries : List Query) :
    Obeys (handleUses depth) KeepsClosed (do
      let session ← requireSession
      let outcomes ← (Attempt.ofProgram (.driver (.write session queries))).mapError .ofDriver
      modify (noteDatabase (outcomes.getLast?.bind (·.database)))
      return outcomes : Attempt Connection Failure (List Outcome)).run := by
  have hframe := KeepsClosed.frame
  have hbetween : ∀ c events c', handleUses depth c events c' → Keeps none c events c' :=
    fun _ _ _ => handleUses_keeps
  have hsession : Obeys (handleUses depth) KeepsClosed requireSession.run := fun _ _ _ _ h =>
    (obeys_requireSession hbetween _ _ _ _ h).keepsClosed
  refine hframe.attempt_bind hsession fun session => ?_
  have hwrite : Obeys (handleUses depth) KeepsClosed
      (Attempt.ofProgram (.driver (.write session queries)) :
        Attempt Connection Driver.Error (List Outcome)).run :=
    Program.obeys_call fun hduring _ => (hbetween _ _ _ hduring).keepsClosed
  refine hframe.attempt_bind (Attempt.obeys_mapError _ hwrite) fun outcomes => ?_
  have hnote : Obeys (handleUses depth) KeepsClosed
      (modify (noteDatabase (outcomes.getLast?.bind (·.database))) :
        Attempt Connection Failure PUnit).run :=
    Attempt.obeys_modify fun _ hclosed => ⟨hclosed, rfl, rfl⟩
  exact hframe.attempt_bind hnote fun _ => hframe.attempt_pure outcomes

/-- An operation that takes the queue leaves a request behind exactly if there was an open transaction
and an interrupt came in while it looked at the session. -/
theorem runs_taking {α : Type} {f : Option (List Query) → Attempt Connection Failure α}
    {r : Except Failure α} (hcoherent : Coherent c)
    (hnone : ∀ {d events c'}, Runs (handleUses depth) (f none).run d events r c' → c' = d)
    (hsome : ∀ queries, Obeys (handleUses depth) KeepsClosed (f (some queries)).run)
    (h : Runs (handleUses depth) (settle >>= fun _ => requireConnected >>= fun _ =>
      Attempt.lift takePending >>= f).run c events r c') :
    (c'.link.discardRequested = true ∧ c'.pending? = none) ↔
      c.transactionOpen = true ∧ InterruptedLook events := by
  have hopen := applyDiscard_pending?_isSome c
  have hflag : c.applyDiscard.link.transactionOpen = c.transactionOpen := hcoherent.settled.trans hopen
  have hcalm := applyDiscard_discardRequested c
  -- while the session is looked at, the request and the queue are as for any other operation
  have hlooked : ∀ {first connected d}, Looks depth c.applyDiscard first connected d →
      d.pending?.isSome = c.transactionOpen ∧ (d.link.discardRequested = true ↔
        c.transactionOpen = true ∧ .interrupted ∈ first) := by
    intro first connected d hlook
    have hkeeps := hlook.keeps
    rw [hkeeps.pending, hkeeps.discardRequested, hcalm, hflag, hopen]
    simp
  rcases runs_looks h with ⟨hlook, -⟩ | ⟨first, d, second, hlook, hrest, rfl⟩
  · obtain ⟨hpending, hdiscard⟩ := hlooked hlook
    refine iff_of_false ?_ fun h => hlook.not_interruptedLook h.2
    rintro ⟨hrequest, hnone⟩
    rw [hnone, (hdiscard.1 hrequest).1] at hpending
    cases hpending
  obtain ⟨hpending, hdiscard⟩ := hlooked hlook
  rw [hlook.interruptedLook_iff, ← hdiscard]
  rcases runs_takePending_bind hrest with ⟨hqueue, hrest⟩ | ⟨queries, hqueue, hrest⟩
  · obtain rfl := hnone hrest
    simp [hqueue]
  · obtain ⟨-, hrequest, hgone⟩ := hsome queries _ _ _ _ hrest rfl
    rw [hrequest, hgone]
    simp [dropTransaction]

theorem takes_of_runs {op : Operation} {result : op.Result} (hop : op.Takes) (hcoherent : Coherent c)
    (h : Runs (handleUses depth) op.program c events result c') :
    (c'.link.discardRequested = true ∧ c'.pending? = none) ↔
      c.transactionOpen = true ∧ InterruptedLook events := by
  cases op with
  | commit =>
    refine runs_taking hcoherent (fun hrefused => (Attempt.runs_throw hrefused).2.2) ?_ h
    rintro (_ | ⟨query, queries⟩)
    · exact KeepsClosed.frame.attempt_pure []
    · exact obeys_send (query :: queries)
  | rollback =>
    refine runs_taking hcoherent (fun hrefused => (Attempt.runs_throw hrefused).2.2) ?_ h
    exact fun _ => KeepsClosed.frame.attempt_pure ()
  | _ => cases hop

/-- A request to discard is without a transaction behind an operation exactly if it took the queue of
an open transaction and was interrupted while it looked at the session. -/
theorem leaves_of_runs {op : Operation} {result : op.Result} (hcoherent : Coherent c)
    (h : Runs (handleUses depth) op.program c events result c') :
    (c'.link.discardRequested = true ∧ c'.pending? = none) ↔
      op.Takes ∧ c.transactionOpen = true ∧ InterruptedLook events := by
  by_cases htakes : op.Takes
  · rw [takes_of_runs htakes hcoherent h]
    exact (and_iff_right htakes).symm
  · refine iff_of_false ?_ fun h => htakes h.1
    rintro ⟨hrequest, hnone⟩
    have hjustified := justified_of_runs htakes hcoherent h hrequest
    rw [hnone] at hjustified
    cases hjustified

/-! ## Requests that are left behind -/

/-- A commit or a rollback of an open transaction was interrupted while it looked at the session, and
nothing but the handle was used since. -/
inductive LeftBehind (depth : Nat) (interactive : Bool) : List Event → Connection → Prop where
  | taken {log events : List Event} {c c' : Connection} {op : Operation} {result : op.Result} :
      Visited depth interactive log c → c.transactionOpen = true → op.Takes →
      Runs (handleUses depth) op.program c events result c' → InterruptedLook events →
      LeftBehind depth interactive (log ++ events) c'
  | handle {log events : List Event} {c c' : Connection} : LeftBehind depth interactive log c →
      Uses (handleUses depth) c events c' → LeftBehind depth interactive (log ++ events) c'

theorem Uses.keeps {own? : Option Query} (h : Uses (handleUses depth) c events c') :
    Keeps own? c events c' := by
  have huses : handleUses (depth + 1) c events c' := h
  exact handleUses_keeps huses

theorem Visited.coherent (h : Visited depth interactive log c) : Coherent c :=
  h.rests.sound.coherent

theorem LeftBehind.request (h : LeftBehind depth interactive log c) :
    c.link.discardRequested = true ∧ c.pending? = none := by
  induction h with
  | taken hvisited hopen htakes hrun hlook =>
    exact (leaves_of_runs hvisited.coherent hrun).2 ⟨htakes, hopen, hlook⟩
  | handle _ huses ih =>
    have hkeeps : Keeps none _ _ _ := huses.keeps
    exact ⟨hkeeps.discardRequested.2 (.inl ih.1), hkeeps.pending.trans ih.2⟩

theorem Visited.leftBehind (h : Visited depth interactive log c)
    (hrequest : c.link.discardRequested = true) (hnone : c.pending? = none) :
    LeftBehind depth interactive log c := by
  induction h with
  | new => cases hrequest
  | @operation log events c c' op result hvisited hrun ih =>
    obtain ⟨htakes, hopen, hlook⟩ := (leaves_of_runs hvisited.coherent hrun).1 ⟨hrequest, hnone⟩
    exact .taken hvisited hopen htakes hrun hlook
  | handle hvisited huses ih =>
    have hkeeps : Keeps none _ _ _ := huses.keeps
    have hbefore := hkeeps.pending.symm.trans hnone
    -- without a queue the flag is down, so the request is an earlier one
    rcases hkeeps.discardRequested.1 hrequest with hdiscard | ⟨hopen, -⟩
    · exact .handle (ih hdiscard hbefore) huses
    · have hflag := hvisited.coherent
      unfold Coherent at hflag
      rw [hopen, hbefore] at hflag
      cases hflag

/-! ## The whole connection -/

/-- How the parts of a connection fit together, in state `c` behind `log`. -/
structure Consistent (depth : Nat) (interactive : Bool) (log : List Event) (c : Connection) : Prop where
  flag : c.link.transactionOpen = c.pending?.isSome
  /-- A transaction that is to be discarded is there, unless the request was left behind. -/
  request : c.link.discardRequested = true →
    c.pending?.isSome = true ∨ LeftBehind depth interactive log c
  /-- A request that was left behind has no transaction to discard; settling takes it back and does no
  more. -/
  leftBehind : LeftBehind depth interactive log c →
    c.link.discardRequested = true ∧ c.pending? = none ∧ c.applyDiscard = c.withdrawDiscard
  /-- Only an operation that takes the queue of an open transaction, and that is interrupted while it
  looks at the session, leaves a request behind; any other one takes it back. -/
  taken : ∀ (op : Operation) events (result : op.Result) c',
    Runs (handleUses depth) op.program c events result c' →
      ((c'.link.discardRequested = true ∧ c'.pending? = none) ↔
        op.Takes ∧ c.transactionOpen = true ∧ InterruptedLook events)
  driver : c.link.session?.isSome = true → c.link.driver?.isSome = true
  /-- When the connection says that it is connected, its session is the latest that was opened, by its
  driver and on its active database. -/
  session : ∀ events c', Runs (handleUses depth) isConnected c events true c' →
    StaysClosed (log ++ events) → ∃ o, latest? log = some o ∧ c.link.session? = some o.session ∧
      c.link.driver? = some o.driver ∧
      o.config.database = if c.active = "" then none else some c.active
  /-- Whatever an operation sends goes to a session on the active database. -/
  queries : ∀ (op : Operation) events (result : op.Result) c', op.Stays →
    Runs (handleUses depth) op.program c events result c' →
      c'.active = c.active ∧ Directed c.active log events

/-- The parts of a connection fit together after all operations, whatever drivers answer and whenever
the reset handle is used. -/
theorem visited_consistent (h : Visited depth interactive log c) :
    Consistent depth interactive log c := by
  have hrests := h.rests
  refine ⟨h.coherent, fun hrequest => ?_, fun hleft => ?_, fun _ _ _ _ => leaves_of_runs h.coherent,
    hrests.sound.installed, ?_, ?_⟩
  · cases hpending : c.pending? with
    | none => exact .inr (h.leftBehind hrequest hpending)
    | some queries => exact .inl rfl
  · obtain ⟨hrequest, hnone⟩ := hleft.request
    have hflag : c.link.transactionOpen = false := by rw [h.coherent, hnone]; rfl
    refine ⟨hrequest, hnone, ?_⟩
    unfold applyDiscard withdrawDiscard dropTransaction
    rw [if_pos hrequest, ← hnone, ← hflag]
  · intro events c' hrun hstays
    obtain ⟨session?, hsome, hfound⟩ :=
      ensures_of_runs (ensures_isConnected hrests.sound hrests.serves) hrun
    obtain ⟨session, rfl⟩ := Option.isSome_iff_exists.1 hsome.symm
    obtain ⟨hlatest, hsession, hdriver, -⟩ := hfound.unchanged
    obtain ⟨hinstalled, hopen⟩ := hfound.found session rfl
    obtain ⟨o, ho, rfl, hby, hclosed | hdatabase⟩ := hfound.serves session hinstalled
    · exact absurd hclosed (hopen hstays)
    · exact ⟨o, hlatest ▸ ho, hsession ▸ hinstalled, hdriver ▸ hby, hdatabase⟩
  · intro op events result c' hstays hrun
    have hstill := ensures_of_runs (ensures_staying hstays hrests) hrun
    obtain ⟨more, hmore, hdirected⟩ := hstill.sound.directed
    obtain rfl := List.append_cancel_left hmore
    exact ⟨hstill.sound.active, hdirected⟩

/-- A transaction on another database. -/
def switchThenBegin : List Operation :=
  [.connect {}, .switchDatabase "films", .begin, .runStatement { text := "CREATE (:Film);" }]

/-- An interrupt asks for the transaction to be discarded, which is still there then. -/
theorem consistent_switchThenBegin :
    let run := replay Program.willing switchThenBegin { interactive := true }
    let reset := interrupt.trace Program.willing run.2
    let log := run.1.flatMap Step.events ++ (.interrupted :: reset.1 ++ [])
    Visited 0 true log reset.2.2 ∧ reset.2.2.link.discardRequested = true ∧
      (latest? log).map (·.config.database) = some (some "films") ∧
      Consistent 0 true log reset.2.2 := by
  intro run reset log
  have hrun : Visited 0 true ([] ++ run.1.flatMap Step.events) run.2 :=
    visited_replay Program.willing switchThenBegin .new
  rw [List.nil_append] at hrun
  have hreset := runs_trace (handleUses_quiet 0) Program.willing interrupt run.2
  have hvisited : Visited 0 true log reset.2.2 := .handle hrun (.reset hreset .none)
  exact ⟨hvisited, by decide +kernel, by decide +kernel, visited_consistent hvisited⟩

theorem staysClosed_of_open {log : List Event} (h : (log.all fun e => (look? e).all (·.2)) = true) :
    StaysClosed log := by
  rintro before session after rfl -
  simp [look?] at h

/-- Whoever asks whether a session is open is interrupted meanwhile. -/
def intruding : (call : Call) → Connection × Unit → List Event × call.Reply × (Connection × Unit)
  | .driver (.isOpen _), (c, w) =>
    let reset := interrupt.trace Program.willing c
    (.interrupted :: reset.1 ++ [], true, reset.2.2, w)
  | call, cw => ([], Program.willing call, cw)

theorem handleUses_intruding (call : Call) (cw : Connection × Unit) :
    handleUses 1 cw.1 (intruding call cw).1 (intruding call cw).2.2.1 := by
  unfold intruding
  split
  · exact .reset (runs_trace (handleUses_quiet 0) Program.willing interrupt _) .none
  · exact .none

/-- All calls are answered over a web, and nothing comes in between. -/
def delivering (call : Call) (cw : Connection × (State × List Exchange × Nat)) :
    List Event × call.Reply × (Connection × (State × List Exchange × Nat)) :=
  ([], (recorded losing untroubled).perform interrupt 0 call cw)

theorem handleUses_delivering (call : Call) (cw : Connection × (State × List Exchange × Nat)) :
    handleUses 0 cw.1 (delivering call cw).1 (delivering call cw).2.2.1 :=
  ⟨rfl, rfl⟩

/-- A commit that is interrupted while it looks at the session leaves a request behind. And over a web a
session on the active database is not yet enough for queries to get there: their address has lost a
tab. -/
theorem consistent_exceptions :
    let left := rehearse intruding [.connect {}, .begin, .commit] ({ interactive := true }, ())
    let query : Query := { text := "CREATE (:A)" }
    let sent := rehearse delivering [.connect { address := "http://[::1]" },
      .switchDatabase "a\tb", .runStatement query] ({ interactive := true }, {}, [], 3)
    (Visited 1 true left.1 left.2.1 ∧ StaysClosed left.1 ∧
      left.2.1.link.discardRequested = true ∧ left.2.1.pending? = none) ∧
    Visited 0 true sent.1 sent.2.1 ∧ StaysClosed sent.1 ∧ sent.2.1.active = "a\tb" ∧
      sent.2.2.2.1.getLast?.map (fun e => (e.request.url.text, e.request.body)) =
        some ("http://[::1]/db/ab/tx/commit", (chainedBody [query] (some ["b"])).text) := by
  intro left query sent
  have hleft : Visited 1 true ([] ++ left.1) left.2.1 :=
    visited_rehearse handleUses_intruding [.connect {}, .begin, .commit] () .new
  have hsent : Visited 0 true ([] ++ sent.1) sent.2.1 :=
    visited_rehearse handleUses_delivering _ _ .new
  rw [List.nil_append] at hleft hsent
  exact ⟨⟨hleft, staysClosed_of_open (by decide +kernel), by decide +kernel, by decide +kernel⟩,
    hsent, staysClosed_of_open (by decide +kernel), by decide +kernel, by decide +kernel⟩

end QueryShell.Connection
