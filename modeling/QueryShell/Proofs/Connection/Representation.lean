import QueryShell.Proofs.Connection.Handle
import QueryShell.Proofs.Connection.History

/-
What holds of the parts of a connection at all times. Every operation rewrites several of them and may
fail in between, and the reset handle may be used inside any of its calls; still the flag of the link
follows the queue, a session comes with its driver, and whatever is sent goes to a session that this
driver opened on the active database.

The log lists all events since the connection is there. What a session was opened with is read off the
log, and so is whether it was ever found closed.
-/
namespace QueryShell.Connection

open Program

/-! ## What the log tells -/

/-- A session, the driver that opened it, and what it was opened with. -/
structure Opening where
  driver : Driver.Ref
  config : SessionConfig
  session : Driver.SessionRef

/-- The session that an event brings. -/
def opening? : Event → Option Opening
  | .answered (.driver (.openSession driver config)) (.ok session) => some { driver, config, session }
  | _ => none

/-- The latest session that was opened. -/
def latest? (log : List Event) : Option Opening :=
  (log.filterMap opening?).getLast?

/-- The session that an event sends queries to. -/
def target? : Event → Option Driver.SessionRef
  | .asked (.driver (.run session _)) => some session
  | .asked (.driver (.write session _)) => some session
  | _ => none

/-- The session was found closed. -/
def FoundClosed (session : Driver.SessionRef) (log : List Event) : Prop :=
  .answered (.driver (.isOpen session)) false ∈ log

/-- A session that is not open never becomes open again. -/
def StaysClosed (log : List Event) : Prop :=
  ∀ before session after, log = before ++ .answered (.driver (.isOpen session)) false :: after →
    .answered (.driver (.isOpen session)) true ∉ after

/-- The database that a session for a database name is opened on. -/
def onDatabase (active : String) : Option String :=
  if active = "" then none else some active

theorem OfHandle.opening?_eq {e : Event} (h : OfHandle e) : opening? e = none := by
  unfold opening?
  split
  · cases h
  · rfl

theorem OfHandle.target?_eq {e : Event} (h : OfHandle e) : target? e = none := by
  unfold target?
  split
  · cases h
  · cases h
  · rfl

theorem latest?_append {log events : List Event} (h : ∀ e ∈ events, opening? e = none) :
    latest? (log ++ events) = latest? log := by
  unfold latest?
  rw [List.filterMap_append, List.filterMap_eq_nil_iff.2 h, List.append_nil]

theorem latest?_snoc {log : List Event} {e : Event} {o : Opening} (h : opening? e = some o) :
    latest? (log ++ [e]) = some o := by
  unfold latest?
  rw [List.filterMap_append, List.filterMap_cons_some h]
  exact List.getLast?_concat

theorem StaysClosed.before {log events : List Event} (h : StaysClosed (log ++ events)) :
    StaysClosed log := by
  rintro before session after rfl hopen
  exact h before session (after ++ events) (by simp) (List.mem_append_left _ hopen)

/-- A session that is open now was never found closed. -/
theorem StaysClosed.not_foundClosed {log : List Event} {session : Driver.SessionRef}
    (h : StaysClosed (log ++ [.answered (.driver (.isOpen session)) true])) :
    ¬ FoundClosed session log := by
  intro hclosed
  obtain ⟨before, after, rfl⟩ := List.append_of_mem hclosed
  refine h before session (after ++ [.answered (.driver (.isOpen session)) true]) (by simp) ?_
  exact List.mem_append_right _ List.mem_cons_self

/-! ## Where queries go -/

/-- The session is the latest that was opened, on the right database; this is only known of drivers
whose sessions stay closed. -/
def Ready (active : String) (session : Driver.SessionRef) (log : List Event) : Prop :=
  StaysClosed log → ∃ o, latest? log = some o ∧ o.session = session ∧
    o.config.database = onDatabase active

/-- Whatever the events behind `log` send, they send to a session on the right database. -/
def Directed (active : String) : (log events : List Event) → Prop
  | _, [] => True
  | log, e :: events =>
    (∀ session, target? e = some session → Ready active session log) ∧
      Directed active (log ++ [e]) events

theorem directed_append {active : String} {log first second : List Event} :
    Directed active log (first ++ second) ↔
      Directed active log first ∧ Directed active (log ++ first) second := by
  induction first generalizing log with
  | nil => simp [Directed]
  | cons e first ih => simp [Directed, ih, and_assoc]

theorem directed_of_untargeted {active : String} {log events : List Event}
    (h : ∀ e ∈ events, target? e = none) : Directed active log events := by
  induction events generalizing log with
  | nil => trivial
  | cons e events ih =>
    obtain ⟨he, hevents⟩ := List.forall_mem_cons.1 h
    refine ⟨fun session hsession => ?_, ih hevents⟩
    rw [he] at hsession
    cases hsession

/-! ## Invariants -/

/-- From which point of the log on queries are followed, and the database they are meant for. -/
structure Aim where
  start : List Event
  active : String

/-- What holds of a connection and its log at all times. -/
structure Sound (aim : Aim) (s : Connection × List Event) : Prop where
  coherent : s.1.link.transactionOpen = s.1.pending?.isSome
  installed : s.1.link.session?.isSome = true → s.1.link.driver?.isSome = true
  active : s.1.active = aim.active
  directed : ∃ events, s.2 = aim.start ++ events ∧ Directed aim.active aim.start events

/-- The session, if there is one, was opened by the driver on the database, or it was found closed. -/
def Serves (database : String) (s : Connection × List Event) : Prop :=
  ∀ session, s.1.link.session? = some session →
    ∃ o, latest? s.2 = some o ∧ o.session = session ∧ s.1.link.driver? = some o.driver ∧
      (FoundClosed session s.2 ∨ o.config.database = onDatabase database)

variable {depth : Nat} {aim : Aim} {database : String} {s s' : Connection × List Event}

theorem Serves.of_none (h : s.1.link.session? = none) : Serves database s := by
  intro session hsession
  rw [h] at hsession
  cases hsession

/-! ### Events -/

/-- An event keeps the invariant, if what it sends goes to a session on the active database. -/
theorem Sound.event (h : Sound aim s) {e : Event}
    (hready : ∀ session, target? e = some session → Ready s.1.active session s.2) :
    Sound aim (s.1, s.2 ++ [e]) := by
  refine ⟨h.coherent, h.installed, h.active, ?_⟩
  obtain ⟨events, hevents, hdirected⟩ := h.directed
  refine ⟨events ++ [e], by simp [hevents], ?_⟩
  rw [directed_append, ← hevents, ← h.active]
  exact ⟨h.active ▸ hdirected, hready, trivial⟩

theorem Serves.event (h : Serves database s) {e : Event} (hopening : opening? e = none) :
    Serves database (s.1, s.2 ++ [e]) := by
  intro session hsession
  obtain ⟨o, hlatest, hsame, hdriver, hserves⟩ := h session hsession
  refine ⟨o, ?_, hsame, hdriver, hserves.imp_left (List.mem_append_left _)⟩
  rw [latest?_append (List.forall_mem_singleton.2 hopening), hlatest]

/-- Uses of the handle keep the invariant. -/
theorem Sound.undergoes (h : Sound aim s) {c : Connection} {events : List Event}
    (huses : Undergoes s.1 events c) : Sound aim (c, s.2 ++ events) := by
  refine ⟨?_, ?_, huses.active.trans h.active, ?_⟩
  · rw [huses.transactionOpen, huses.pending]
    exact h.coherent
  · rw [huses.session, huses.driver]
    exact h.installed
  · obtain ⟨earlier, hearlier, hdirected⟩ := h.directed
    refine ⟨earlier ++ events, by simp [hearlier], directed_append.2 ⟨hdirected, ?_⟩⟩
    exact directed_of_untargeted fun e he => (huses.ofHandle e he).target?_eq

theorem Serves.undergoes (h : Serves database s) {c : Connection} {events : List Event}
    (huses : Undergoes s.1 events c) : Serves database (c, s.2 ++ events) := by
  intro session hsession
  rw [huses.session] at hsession
  obtain ⟨o, hlatest, hsame, hdriver, hserves⟩ := h session hsession
  refine ⟨o, ?_, hsame, huses.driver.trans hdriver, hserves.imp_left (List.mem_append_left _)⟩
  rw [latest?_append fun e he => (huses.ofHandle e he).opening?_eq, hlatest]

/-- What a call and the uses of the handle meanwhile leave. -/
theorem asks_undergoes {call : Call} {reply : call.Reply}
    (h : asks (handleUses depth) call s reply s') :
    ∃ during, Undergoes s.1 during s'.1 ∧
      s'.2 = s.2 ++ [.asked call] ++ during ++ [.answered call reply] := by
  obtain ⟨during, hduring, hlog⟩ := h
  exact ⟨during, handleUses_undergoes hduring, by simp [hlog]⟩

theorem Sound.ask (h : Sound aim s) {call : Call} {reply : call.Reply}
    (hready : ∀ session, target? (.asked call) = some session → Ready s.1.active session s.2)
    (hasks : asks (handleUses depth) call s reply s') : Sound aim s' := by
  obtain ⟨during, hduring, hlog⟩ := asks_undergoes hasks
  have hanswered := ((h.event hready).undergoes hduring).event (e := .answered call reply) nofun
  rwa [← hlog] at hanswered

/-- A call keeps the session on its database, unless it opens another one. -/
theorem Serves.ask (h : Serves database s) {call : Call} {reply : call.Reply}
    (hopening : opening? (.answered call reply) = none)
    (hasks : asks (handleUses depth) call s reply s') : Serves database s' := by
  obtain ⟨during, hduring, hlog⟩ := asks_undergoes hasks
  have hanswered := ((h.event (e := .asked call) rfl).undergoes hduring).event hopening
  rwa [← hlog] at hanswered

/-! ## The open session -/

/-- What is known when the session has been looked at. -/
structure Found (aim : Aim) (database : String) (s : Connection × List Event)
    (session? : Option Driver.SessionRef) (s' : Connection × List Event) : Prop where
  sound : Sound aim s'
  serves : Serves database s'
  /-- Looking does not change the session. -/
  unchanged : latest? s'.2 = latest? s.2 ∧ s'.1.link.session? = s.1.link.session? ∧
    s'.1.link.driver? = s.1.link.driver? ∧ s'.1.active = s.1.active
  found : ∀ session, session? = some session → s'.1.link.session? = some session ∧
    (StaysClosed s'.2 → ¬ FoundClosed session s'.2)
  /-- Without an open session any database may be made the active one. -/
  idle : session? = none → ∀ other, Serves other s'

theorem Found.ready {session : Driver.SessionRef} (h : Found aim database s (some session) s') :
    Ready database session s'.2 := by
  intro hstays
  obtain ⟨hsession, hopen⟩ := h.found session rfl
  obtain ⟨o, hlatest, hsame, -, hclosed | hdatabase⟩ := h.serves session hsession
  · exact absurd hclosed (hopen hstays)
  · exact ⟨o, hlatest, hsame, hdatabase⟩

theorem ensures_openSession? (h : Sound aim s) (hserves : Serves database s) :
    Ensures (asks (handleUses depth)) openSession? (Found aim database s) s := by
  unfold openSession?
  rw [ensures_bind, ensures_get]
  cases hsession : s.1.link.session? with
  | none =>
    exact ⟨h, hserves, ⟨rfl, rfl, rfl, rfl⟩, nofun, fun _ _ => .of_none hsession⟩
  | some session =>
    dsimp only
    rw [ensures_bind]
    refine (ensures_call (.driver (.isOpen session)) _ s).2 fun isOpen s' hasks => ?_
    have hsound := h.ask (fun _ htarget => by cases htarget) hasks
    have hserves' := hserves.ask rfl hasks
    obtain ⟨during, hduring, hlog⟩ := asks_undergoes hasks
    have hlatest : latest? s'.2 = latest? s.2 := by
      rw [hlog, latest?_append (List.forall_mem_singleton.2 rfl),
        latest?_append fun e he => (hduring.ofHandle e he).opening?_eq,
        latest?_append (List.forall_mem_singleton.2 rfl)]
    refine ⟨hsound, hserves', ⟨hlatest, hduring.session, hduring.driver, hduring.active⟩, ?_, ?_⟩
    · intro found hfound
      cases isOpen with
      | false => cases hfound
      | true =>
        cases hfound
        refine ⟨hduring.session.trans hsession, fun hstays hclosed => ?_⟩
        rw [hlog] at hstays hclosed
        -- the answer itself says that the session is open
        refine hstays.not_foundClosed ?_
        simpa [FoundClosed] using hclosed
    · intro hnone other session' hsession'
      cases isOpen with
      | true => cases hnone
      | false =>
        obtain ⟨o, ho, hsame, hdriver, -⟩ := hserves' session' hsession'
        refine ⟨o, ho, hsame, hdriver, .inl ?_⟩
        rw [hduring.session, hsession] at hsession'
        cases hsession'
        rw [hlog]
        simp [FoundClosed]

theorem ensures_isConnected (h : Sound aim s) (hserves : Serves database s) :
    Ensures (asks (handleUses depth)) isConnected (fun connected s' => ∃ session?,
      connected = session?.isSome ∧ Found aim database s session? s') s := by
  unfold isConnected
  rw [ensures_bind]
  exact (ensures_openSession? h hserves).weaken fun session? s' hfound => ⟨session?, rfl, hfound⟩

theorem ensures_requireConnected (h : Sound aim s) (hserves : Serves database s) :
    Ensures (asks (handleUses depth)) requireConnected.run
      (fun _ s' => ∃ session?, Found aim database s session? s') s := by
  unfold requireConnected
  rw [Attempt.ensures_lift_bind]
  refine (ensures_isConnected h hserves).weaken ?_
  rintro connected s' ⟨session?, rfl, hfound⟩
  cases session? with
  | none => exact ⟨none, hfound⟩
  | some session => exact ⟨some session, hfound⟩

theorem ensures_requireSession (h : Sound aim s) (hserves : Serves database s) :
    Ensures (asks (handleUses depth)) requireSession.run
      (fun r s' => Sound aim s' ∧ Serves database s' ∧
        ∀ session, r = .ok session → Ready database session s'.2) s := by
  unfold requireSession
  rw [Attempt.ensures_lift_bind]
  refine (ensures_openSession? h hserves).weaken fun session? s' hfound => ?_
  cases session? with
  | none => exact ⟨hfound.sound, hfound.serves, nofun⟩
  | some session =>
    refine ⟨hfound.sound, hfound.serves, fun session' hok => ?_⟩
    cases hok
    exact hfound.ready

/-! ## Sessions -/

/-- The session was taken out. -/
structure Retired (aim : Aim) (driver? : Option Driver.Ref) (s : Connection × List Event) : Prop where
  sound : Sound aim s
  session : s.1.link.session? = none
  driver : s.1.link.driver? = driver?

/-- The connection as operations leave it. -/
structure Rests (aim : Aim) (s : Connection × List Event) : Prop where
  sound : Sound aim s
  serves : Serves aim.active s

variable {driver? : Option Driver.Ref}

theorem Retired.rests (h : Retired aim driver? s) : Rests aim s :=
  ⟨h.sound, .of_none h.session⟩

theorem Retired.ask (h : Retired aim driver? s) {call : Call} {reply : call.Reply}
    (htarget : target? (.asked call) = none) (hasks : asks (handleUses depth) call s reply s') :
    Retired aim driver? s' := by
  obtain ⟨during, hduring, -⟩ := asks_undergoes hasks
  refine ⟨h.sound.ask ?_ hasks, hduring.session.trans h.session, hduring.driver.trans h.driver⟩
  intro session hsession
  rw [htarget] at hsession
  cases hsession

/-- Without a session nothing goes wrong, as long as no query is sent. -/
theorem Retired.ensures_call (h : Retired aim driver? s) (call : Call)
    (htarget : target? (.asked call) = none) :
    Ensures (asks (handleUses depth)) (Program.call call) (fun _ => Retired aim driver?) s :=
  (Program.ensures_call call _ s).2 fun _ _ hasks => h.ask htarget hasks

/-- What else is noted of a connection does not matter. -/
theorem Sound.note (h : Sound aim s) {c : Connection} (hlink : c.link = s.1.link)
    (hpending : c.pending? = s.1.pending?) (hactive : c.active = s.1.active) :
    Sound aim (c, s.2) := by
  refine ⟨?_, ?_, hactive.trans h.active, h.directed⟩
  · rw [hlink, hpending]
    exact h.coherent
  · rw [hlink]
    exact h.installed

theorem Sound.takeSession (h : Sound aim s) : Retired aim s.1.link.driver?
    ({ s.1 with link := { s.1.link with session? := none } }, s.2) :=
  ⟨⟨h.coherent, nofun, h.active, h.directed⟩, rfl, rfl⟩

theorem ensures_retireSession (h : Sound aim s) :
    Ensures (asks (handleUses depth)) retireSession (fun _ => Retired aim s.1.link.driver?) s := by
  have hretired := h.takeSession
  have hsaved : ∀ latest? s', Retired aim s.1.link.driver? s' →
      Retired aim s.1.link.driver? ({ s'.1 with bookmark? := latest? }, s'.2) :=
    fun _ _ h' => ⟨h'.sound.note rfl rfl rfl, h'.session, h'.driver⟩
  unfold retireSession takeSession saveBookmark
  rw [ensures_bind, ensures_modifyGet]
  dsimp only
  cases s.1.link.session? with
  | none => exact hsaved _ _ hretired
  | some session =>
    rw [ensures_bind]
    refine (hretired.ensures_call (.driver (.lastBookmark session)) rfl).weaken ?_
    intro latest? s' h'
    rw [ensures_bind, ensures_modifyGet, ensures_bind]
    refine ((hsaved _ _ h').ensures_call (.driver (.closeSession session)) rfl).weaken ?_
    intro reply s' h'
    cases reply with
    | ok => exact h'
    | error e =>
      dsimp only
      rw [ensures_bind]
      exact h'.ensures_call (.console (.warn .connection _)) rfl

/-- A new session is put into place. -/
theorem Retired.putSession {driver : Driver.Ref} (h : Retired aim (some driver) s)
    {config : SessionConfig} {session : Driver.SessionRef}
    (hlatest : latest? s.2 = some ⟨driver, config, session⟩)
    (hconfig : config.database = onDatabase aim.active) :
    Rests aim ({ s.1 with link := { s.1.link with session? := some session } }, s.2) := by
  refine ⟨⟨h.sound.coherent, ?_, h.sound.active, h.sound.directed⟩, ?_⟩
  · intro _
    show s.1.link.driver?.isSome = true
    rw [h.driver]
    rfl
  · intro other hother
    cases hother
    exact ⟨_, hlatest, rfl, h.driver, .inr hconfig⟩

/-- A query is sent to a session on the active database. -/
theorem Rests.ensures_send (h : Rests aim s) (call : Call)
    (hready : ∀ session, target? (.asked call) = some session → Ready s.1.active session s.2)
    (hopening : ∀ reply, opening? (.answered call reply) = none) :
    Ensures (asks (handleUses depth)) (Program.call call) (fun _ => Rests aim) s :=
  (Program.ensures_call call _ s).2 fun reply _ hasks =>
    ⟨h.sound.ask hready hasks, h.serves.ask (hopening reply) hasks⟩

/-- Without a driver there is no session. -/
theorem Sound.session_none (h : Sound aim s) (hdriver : s.1.link.driver? = none) :
    s.1.link.session? = none := by
  have hinstalled := h.installed
  rw [hdriver] at hinstalled
  simpa using hinstalled

/-- Wherever `reconnect` fails, a session that is there is on the active database. -/
theorem ensures_reconnect (h : Sound aim s) :
    Ensures (asks (handleUses depth)) reconnect.run (fun _ => Rests aim) s := by
  unfold reconnect
  rw [Attempt.ensures_get_bind]
  have hretire : Ensures (asks (handleUses depth)) retireSession
      (fun _ => Retired aim s.1.link.driver?) s := ensures_retireSession h
  cases hdriver : s.1.link.driver? with
  | none => exact ⟨h, .of_none (h.session_none hdriver)⟩
  | some driver =>
    rw [hdriver] at hretire
    rw [Attempt.ensures_lift_bind]
    refine hretire.weaken fun bookmark? s h => ?_
    rw [Attempt.ensures_bind]
    refine (h.ensures_call (.driver (.verify driver)) rfl).weaken ?_
    rintro (e | _) s h
    · exact h.rests
    refine (Attempt.ensures_get_bind _ _ s).2 ?_
    rw [Attempt.ensures_bind]
    refine (Program.ensures_call (.driver (.openSession driver _)) _ s).2 ?_
    intro reply s' hasks
    have h' := h.ask rfl hasks
    obtain ⟨during, -, hlog⟩ := asks_undergoes hasks
    cases reply with
    | error e => exact h'.rests
    | ok session =>
      have hlatest : latest? s'.2 = some ⟨driver, sessionConfig s.1.active bookmark?, session⟩ := by
        rw [hlog]
        exact latest?_snoc rfl
      have hconfig : (sessionConfig s.1.active bookmark?).database = onDatabase s'.1.active := by
        rw [h.sound.active, h'.sound.active]
        rfl
      have hput := h'.putSession hlatest (h'.sound.active ▸ hconfig)
      refine (Attempt.ensures_lift_bind _ _ _ _).2 ?_
      unfold putSession
      rw [ensures_modify, Attempt.ensures_get_bind, Attempt.ensures_bind]
      refine (hput.ensures_send (.driver (.run session _)) ?_ fun _ => rfl).weaken ?_
      · rintro other hother -
        cases hother
        exact ⟨_, hlatest, rfl, hconfig⟩
      · rintro (e | outcome) s h
        · exact h
        · exact ⟨h.sound.note rfl rfl rfl, h.serves⟩

/-! ## Connections -/

theorem Retired.takeDriver (h : Retired aim driver? s) :
    Retired aim none ({ s.1 with link := { s.1.link with driver? := none } }, s.2) := by
  refine ⟨⟨h.sound.coherent, ?_, h.sound.active, h.sound.directed⟩,
    h.session, rfl⟩
  simp [h.session]

theorem Retired.forget (h : Retired aim driver? s) : Rests aim (s.1.forget, s.2) := by
  refine ⟨⟨rfl, ?_, h.sound.active, h.sound.directed⟩, .of_none h.session⟩
  simp [Connection.forget, dropTransaction, withdrawDiscard, h.session]

/-- The driver is taken out and closed, if there is one. -/
theorem Retired.ensures_closeDriver {α : Type} {f : Option Driver.Ref → Program Connection α}
    {g : Driver.Ref → Except Driver.Error Unit → Program Connection α}
    {post : α → Connection × List Event → Prop} (h : Retired aim driver? s)
    (hclose : ∀ driver, f (some driver) = Program.driver (.closeDriver driver) >>= g driver)
    (hnone : ∀ s, Retired aim none s → Ensures (asks (handleUses depth)) (f none) post s)
    (hclosed : ∀ driver r s, Retired aim none s →
      Ensures (asks (handleUses depth)) (g driver r) post s) :
    Ensures (asks (handleUses depth)) (Connection.takeDriver >>= f) post s := by
  have htaken := h.takeDriver
  unfold Connection.takeDriver
  rw [ensures_bind, ensures_modifyGet]
  dsimp only
  cases s.1.link.driver? with
  | none => exact hnone _ htaken
  | some driver =>
    rw [hclose, ensures_bind]
    exact (htaken.ensures_call (.driver (.closeDriver driver)) rfl).weaken (hclosed driver)

theorem ensures_tearDown (h : Sound aim s) :
    Ensures (asks (handleUses depth)) tearDown (fun _ => Rests aim) s := by
  have hretired := h.takeSession
  unfold tearDown takeSession
  rw [ensures_bind, ensures_modifyGet]
  dsimp only
  cases s.1.link.session? with
  | none =>
    show Ensures _ (takeDriver >>= _) _ _
    refine hretired.ensures_closeDriver (fun _ => rfl) (fun _ h => h.forget) ?_
    rintro driver (e | _) s h
    · exact h.forget
    · exact h.forget
  | some session =>
    rw [ensures_bind]
    refine (hretired.ensures_call (.driver (.closeSession session)) rfl).weaken fun reply s h => ?_
    cases reply with
    | error e =>
      show Ensures _ (takeDriver >>= _) _ _
      refine h.ensures_closeDriver (fun _ => rfl) (fun _ h => h.forget) ?_
      rintro driver (e | _) s h
      · exact h.forget
      · exact h.forget
    | ok =>
      show Ensures _ (takeDriver >>= _) _ _
      refine h.ensures_closeDriver (fun _ => rfl) (fun _ h => h.forget) ?_
      rintro driver (e | _) s h
      · exact h.forget
      · exact h.forget

theorem ensures_disconnect (h : Sound aim s) :
    Ensures (asks (handleUses depth)) disconnect (fun _ => Rests aim) s := by
  unfold disconnect
  rw [ensures_bind]
  refine (ensures_tearDown h).weaken fun failures s h => ?_
  refine ensures_forM (fun failure s h => ?_) failures h
  exact h.ensures_send (.console (.warn .connection _)) (fun _ h => by cases h) fun _ => rfl

theorem ensures_establish (endpoint : Endpoint) (h : Rests aim s) :
    Ensures (asks (handleUses depth)) (establish endpoint).run (fun _ => Rests aim) s := by
  unfold establish
  rw [Attempt.ensures_bind]
  refine (h.ensures_send (.driver (.openDriver endpoint)) (fun _ h => by cases h)
    fun _ => rfl).weaken ?_
  rintro (e | driver) s h
  · exact h
  · refine (Attempt.ensures_lift_bind _ _ _ _).2 ?_
    unfold putDriver
    rw [ensures_modify]
    refine ensures_reconnect ⟨h.sound.coherent, fun _ => rfl, h.sound.active,
      h.sound.directed⟩

/-! ## Operations -/

/-- Queries may be followed from any later point on. -/
theorem Rests.again (h : Rests aim s) : Rests ⟨s.2, s.1.active⟩ s := by
  refine ⟨⟨h.sound.coherent, h.sound.installed, rfl, [], by simp, trivial⟩, ?_⟩
  rw [h.sound.active]
  exact h.serves

theorem Found.rests {session? : Option Driver.SessionRef} (h : Found aim aim.active s session? s') :
    Rests aim s' :=
  ⟨h.sound, h.serves⟩

theorem Rests.settled (h : Rests aim s) : Rests aim (s.1.applyDiscard, s.2) := by
  unfold applyDiscard
  split
  · exact ⟨⟨rfl, h.sound.installed, h.sound.active, h.sound.directed⟩, h.serves⟩
  · exact h

/-- Another database becomes the active one; from here on queries are meant for it. -/
theorem Sound.activate (h : Sound aim s) (name : String) :
    Sound ⟨s.2, name⟩ ({ s.1 with active := name }, s.2) :=
  ⟨h.coherent, h.installed, rfl, [], by simp, trivial⟩

theorem ensures_connect (endpoint : Endpoint) (h : Rests aim s) :
    Ensures (asks (handleUses depth)) (connect endpoint).run (fun _ s' => ∃ aim, Rests aim s') s := by
  unfold connect
  rw [ensures_settle_bind, Attempt.ensures_lift_bind]
  refine (ensures_isConnected h.settled.sound h.settled.serves).weaken ?_
  rintro connected s ⟨session?, rfl, hfound⟩
  cases session? with
  | some session => exact ⟨aim, hfound.rests⟩
  | none =>
    refine (Attempt.ensures_modify_bind _ _ _ _).2 ?_
    have hactive := hfound.sound.activate endpoint.database
    rw [Attempt.ensures_lift_bind]
    refine (ensures_establish endpoint ⟨hactive, hfound.idle rfl _⟩).weaken ?_
    rintro (source | _) s h
    · refine (Attempt.ensures_lift_bind _ _ _ _).2 ?_
      exact (ensures_tearDown h.sound).weaken fun _ _ h => ⟨_, h⟩
    · exact ⟨_, h⟩

theorem ensures_switchDatabase (name : String) (h : Rests aim s) :
    Ensures (asks (handleUses depth)) (switchDatabase name).run
      (fun _ s' => ∃ aim, Rests aim s') s := by
  unfold switchDatabase
  rw [ensures_settle_bind, Attempt.ensures_get_bind]
  have hsettled := h.settled
  split
  · exact ⟨aim, hsettled⟩
  refine (Attempt.ensures_lift_bind _ _ _ _).2 ?_
  unfold activate
  rw [ensures_modifyGet, Attempt.ensures_lift_bind]
  -- the session still serves the database before
  refine (ensures_isConnected (hsettled.sound.activate name) hsettled.serves).weaken ?_
  rintro connected s ⟨session?, rfl, hfound⟩
  cases session? with
  | none => exact ⟨_, hfound.sound, hfound.idle rfl _⟩
  | some session =>
    refine (Attempt.ensures_lift_bind _ _ _ _).2 ?_
    refine (ensures_reconnect hfound.sound).weaken ?_
    rintro (source | _) s h
    · refine (Attempt.ensures_get_bind _ _ _).2 ?_
      split
      · refine (Attempt.ensures_lift_bind _ _ _ _).2 ?_
        rw [ensures_modifyGet, Attempt.ensures_lift_bind]
        refine (ensures_reconnect (h.sound.activate _)).weaken ?_
        rintro (e | _) s h
        · exact ⟨_, h⟩
        · exact ⟨_, h⟩
      · exact ⟨_, h⟩
    · exact ⟨_, h⟩

/-- What operations on an open session start with. -/
theorem Rests.ensures_connected {α : Type} {f : Unit → Attempt Connection Failure α} (h : Rests aim s)
    (hf : ∀ s, Rests aim s → Ensures (asks (handleUses depth)) (f ()).run (fun _ => Rests aim) s) :
    Ensures (asks (handleUses depth)) (settle >>= fun _ => requireConnected >>= f).run
      (fun _ => Rests aim) s := by
  rw [ensures_settle_bind, Attempt.ensures_bind]
  refine (ensures_requireConnected h.settled.sound h.settled.serves).weaken ?_
  rintro (e | _) s ⟨session?, hfound⟩
  · exact hfound.rests
  · exact hf s hfound.rests

theorem ensures_begin (h : Rests aim s) :
    Ensures (asks (handleUses depth)) begin.run (fun _ => Rests aim) s := by
  refine h.ensures_connected fun s h => ?_
  rw [Attempt.ensures_get_bind]
  split
  · exact h
  · exact ⟨⟨rfl, h.sound.installed, h.sound.active, h.sound.directed⟩, h.serves⟩

/-- Taking the queue leaves no transaction behind. -/
theorem Rests.dropTransaction (h : Rests aim s) : Rests aim (s.1.dropTransaction, s.2) :=
  ⟨⟨rfl, h.sound.installed, h.sound.active, h.sound.directed⟩, h.serves⟩

theorem ensures_commit (h : Rests aim s) :
    Ensures (asks (handleUses depth)) commit.run (fun _ => Rests aim) s := by
  refine h.ensures_connected fun s h => ?_
  unfold takePending
  rw [Attempt.ensures_lift_bind, ensures_modifyGet]
  cases s.1.pending? with
  | none => exact h
  | some queries =>
    have hdropped := h.dropTransaction
    cases queries with
    | nil => exact hdropped
    | cons query queries =>
      refine (Attempt.ensures_bind _ _ _ _).2 ?_
      refine (ensures_requireSession hdropped.sound hdropped.serves).weaken ?_
      rintro (e | session) s ⟨hsound, hserves, hready⟩
      · exact ⟨hsound, hserves⟩
      refine (Attempt.ensures_bind _ _ _ _).2 ((Attempt.ensures_mapError _ _ _ _).2 ?_)
      have hrests : Rests aim s := ⟨hsound, hserves⟩
      refine (hrests.ensures_send (.driver (.write session (query :: queries))) ?_
        fun _ => rfl).weaken ?_
      · rintro target htarget
        cases htarget
        rw [hsound.active]
        exact hready session rfl
      · rintro (e | outcomes) s h
        · exact h
        · exact ⟨h.sound.note rfl rfl rfl, h.serves⟩

theorem ensures_rollback (h : Rests aim s) :
    Ensures (asks (handleUses depth)) rollback.run (fun _ => Rests aim) s := by
  refine h.ensures_connected fun s h => ?_
  unfold takePending
  rw [Attempt.ensures_lift_bind, ensures_modifyGet]
  cases s.1.pending? with
  | none => exact h
  | some queries => exact h.dropTransaction

/-- Both sessions that a query may be sent to are on the active database. -/
theorem ensures_runNow (query : Query) (h : Rests aim s) :
    Ensures (asks (handleUses depth)) (runNow query).run (fun _ => Rests aim) s := by
  have hsend : ∀ (session : Driver.SessionRef) (s : Connection × List Event), Rests aim s →
      Ready aim.active session s.2 → Ensures (asks (handleUses depth))
        (Program.driver (.run session query)) (fun _ => Rests aim) s := by
    intro session s h hready
    refine h.ensures_send (.driver (.run session query)) ?_ fun _ => rfl
    intro target htarget
    cases htarget
    rw [h.sound.active]
    exact hready
  have hnote : ∀ (database? : Option String) (s : Connection × List Event), Rests aim s →
      Rests aim (s.1.noteDatabase database?, s.2) :=
    fun _ _ h => ⟨h.sound.note rfl rfl rfl, h.serves⟩
  unfold runNow
  rw [Attempt.ensures_bind]
  refine (ensures_requireSession h.sound h.serves).weaken ?_
  rintro (e | session) s ⟨hsound, hserves, hready⟩
  · exact ⟨hsound, hserves⟩
  refine (Attempt.ensures_lift_bind _ _ _ _).2 ?_
  refine (hsend session s ⟨hsound, hserves⟩ (hready session rfl)).weaken ?_
  rintro (e | outcome) s h
  · cases e with
    | sessionExpired message =>
      refine (Attempt.ensures_bind _ _ _ _).2 ((Attempt.ensures_mapError _ _ _ _).2 ?_)
      refine (ensures_reconnect h.sound).weaken ?_
      rintro (e | _) s h
      · exact h
      refine (Attempt.ensures_bind _ _ _ _).2 ?_
      refine (ensures_requireSession h.sound h.serves).weaken ?_
      rintro (e | session) s ⟨hsound, hserves, hready⟩
      · exact ⟨hsound, hserves⟩
      refine (Attempt.ensures_bind _ _ _ _).2 ((Attempt.ensures_mapError _ _ _ _).2 ?_)
      refine (hsend session s ⟨hsound, hserves⟩ (hready session rfl)).weaken ?_
      rintro (e | outcome) s h
      · exact h
      · exact hnote _ _ h
    | _ => exact h
  · exact hnote _ _ h

theorem ensures_runStatement (query : Query) (h : Rests aim s) :
    Ensures (asks (handleUses depth)) (runStatement query).run (fun _ => Rests aim) s := by
  refine h.ensures_connected fun s h => ?_
  rw [Attempt.ensures_get_bind]
  split
  · have hcoherent := h.sound.coherent
    rw [← enqueue_pending?_isSome query] at hcoherent
    exact ⟨⟨hcoherent, h.sound.installed, h.sound.active, h.sound.directed⟩, h.serves⟩
  · refine (Attempt.ensures_bind _ _ _ _).2 ((ensures_runNow query h).weaken ?_)
    rintro (e | outcome) s h
    · exact h
    · exact h

theorem ensures_evaluate (query : Query) (h : Rests aim s) :
    Ensures (asks (handleUses depth)) (evaluate query).run (fun _ => Rests aim) s := by
  refine h.ensures_connected fun s h => ?_
  exact ensures_runNow query h

theorem Rests.undergoes (h : Rests aim s) {c : Connection} {events : List Event}
    (huses : Undergoes s.1 events c) : Rests aim (c, s.2 ++ events) :=
  ⟨h.sound.undergoes huses, h.serves.undergoes huses⟩

theorem Rests.requestDiscard (h : Rests aim s) :
    Rests aim ({ s.1 with link := s.1.link.requestDiscard }, s.2) := by
  unfold Link.requestDiscard
  split
  · exact ⟨⟨h.sound.coherent, h.sound.installed, h.sound.active, h.sound.directed⟩, h.serves⟩
  · exact h

/-- The connection may be reset from inside too. -/
theorem ensures_reset (h : Rests aim s) :
    Ensures (asks (handleUses depth)) reset (fun _ => Rests aim) s := by
  have hcalls : ∀ call (s : Connection × List Event), MadeFor s.1 call → Rests aim s →
      ∀ reply s', asks (handleUses depth) call s reply s' → Rests aim s' := by
    intro call s hcall h reply s' hasks
    have hasked : OfHandle (.asked call) := hcall.byHandle
    have hanswered : OfHandle (.answered call reply) := hcall.byHandle
    refine ⟨h.sound.ask (fun session htarget => ?_) hasks, h.serves.ask hanswered.opening?_eq hasks⟩
    rw [hasked.target?_eq] at htarget
    cases htarget
  unfold reset
  rw [ensures_bind]
  refine (ensures_interrupt hcalls h.requestDiscard).weaken fun _ s h => ?_
  rw [ensures_bind]
  refine (ensures_clearInterrupt hcalls h).weaken fun _ s h => ?_
  exact h.settled

/-! ## Whole operations -/

/-- The operation leaves the active database as it is. -/
def Operation.Stays : Operation → Prop
  | .connect _ => False
  | .switchDatabase _ => False
  | _ => True

theorem ensures_staying {op : Operation} (hstays : op.Stays) (h : Rests aim s) :
    Ensures (asks (handleUses depth)) op.program (fun _ => Rests aim) s := by
  cases op with
  | connect endpoint => cases hstays
  | switchDatabase name => cases hstays
  | disconnect => exact ensures_disconnect h.sound
  | begin => exact ensures_begin h
  | commit => exact ensures_commit h
  | rollback => exact ensures_rollback h
  | runStatement query => exact ensures_runStatement query h
  | evaluate query => exact ensures_evaluate query h
  | reset => exact ensures_reset h

theorem ensures_operation (op : Operation) (h : Rests aim s) :
    Ensures (asks (handleUses depth)) op.program (fun _ s' => ∃ aim, Rests aim s') s := by
  cases op with
  | connect endpoint => exact ensures_connect endpoint h
  | switchDatabase name => exact ensures_switchDatabase name h
  | _ =>
    refine Ensures.weaken (ensures_staying ?_ h) fun _ _ h => ⟨aim, h⟩
    trivial

/-- What a connection may have been used for since it is there: operations, and uses of its handle
between them and inside their calls. -/
inductive Visited (depth : Nat) (interactive : Bool) : List Event → Connection → Prop where
  | new : Visited depth interactive [] { interactive }
  | operation {log events : List Event} {c c' : Connection} {op : Operation} {result : op.Result} :
      Visited depth interactive log c → Runs (handleUses depth) op.program c events result c' →
      Visited depth interactive (log ++ events) c'
  | handle {log events : List Event} {c c' : Connection} : Visited depth interactive log c →
      Uses (handleUses depth) c events c' → Visited depth interactive (log ++ events) c'

theorem Visited.rests {interactive : Bool} {log : List Event} {c : Connection}
    (h : Visited depth interactive log c) : Rests ⟨log, c.active⟩ (c, log) := by
  induction h with
  | new => exact ⟨⟨rfl, nofun, rfl, [], rfl, trivial⟩, .of_none rfl⟩
  | @operation log events c c' op result _ hrun ih =>
    obtain ⟨aim, hrests⟩ := ensures_of_runs (ensures_operation op ih) hrun
    exact hrests.again
  | @handle log events c c' _ huses ih =>
    exact (ih.undergoes (huses.undergoes fun _ _ _ => handleUses_undergoes)).again

theorem visited_replay {interactive : Bool} (respond : (call : Call) → call.Reply)
    (ops : List Operation) {log : List Event} {c : Connection} (h : Visited depth interactive log c) :
    Visited depth interactive (log ++ (replay respond ops c).1.flatMap Step.events)
      (replay respond ops c).2 := by
  induction ops generalizing log c with
  | nil => simpa [replay] using h
  | cons op ops ih =>
    have hrun := runs_trace (handleUses_quiet depth) respond op.program c
    simpa [replay, Step.events] using ih (.operation h hrun)

/-- The events of operations whose calls each take a course of their own, and what they lead to. -/
def rehearse {ω : Type}
    (course : (call : Call) → Connection × ω → List Event × call.Reply × (Connection × ω)) :
    List Operation → Connection × ω → List Event × (Connection × ω)
  | [], cw => ([], cw)
  | op :: rest, cw =>
    let (events, _, dw) := op.program.rehearse course cw
    let (more, cw') := rehearse course rest dw
    (events ++ more, cw')

theorem visited_rehearse {ω : Type} {interactive : Bool}
    {course : (call : Call) → Connection × ω → List Event × call.Reply × (Connection × ω)}
    (hcourse : ∀ call cw, handleUses depth cw.1 (course call cw).1 (course call cw).2.2.1)
    (ops : List Operation) {log : List Event} {c : Connection} (w : ω)
    (h : Visited depth interactive log c) :
    Visited depth interactive (log ++ (rehearse course ops (c, w)).1)
      (rehearse course ops (c, w)).2.1 := by
  induction ops generalizing log c w with
  | nil => simpa [rehearse] using h
  | cons op ops ih =>
    have hrun := runs_rehearse hcourse op.program (c, w)
    have hrest := ih (op.program.rehearse course (c, w)).2.2.2 (.operation h hrun)
    simpa [rehearse] using hrest

end QueryShell.Connection
