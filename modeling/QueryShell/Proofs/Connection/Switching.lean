import QueryShell.Proofs.Connection.FailedConnect
import QueryShell.Proofs.Connection.Retrying

/-
Switching databases. The session is replaced by one on the new database; when that fails and someone is
there to go on, it is replaced once more by one on the database before. `Switching` lists all ways in
which this can go, turn by turn, with what is reported and where the connection is left
(`runs_switchDatabase`). The session before is gone by the time the first replacement fails, and so may
be the one that was half built, so the bookmark of the connection has to get past both.
-/
namespace QueryShell.Connection

open Program

/-! ## Where a switch leads -/

namespace Turn

/-- The bookmark that a turn tells. -/
def bookmark? : Turn → Option Bookmark
  | ⟨.lastBookmark _, latest?⟩ => latest?
  | _ => none

end Turn

/-- The bookmark that was told last. -/
def told? (ts : List Turn) : Option Bookmark :=
  (ts.filterMap Turn.bookmark?).getLast?

/-- The latest bookmark of a connection, behind some turns. -/
def knownBookmark? (c : Connection) (ts : List Turn) : Option Bookmark :=
  (told? ts).or c.bookmark?

/-- Behind its turns, the connection stands on a session that its driver opened for the database, with
the latest bookmark, and it knows of the server what the session reported when it was tested. -/
structure Stands (c : Connection) (database : String) (ts : List Turn) (d : Connection) : Prop where
  active : d.active = database
  bookmark : d.bookmark? = knownBookmark? c ts
  renewed : ∃ front driver session o, c.link.driver? = some driver ∧
    ts = front ++ [⟨.verify driver, .ok ()⟩,
      ⟨.openSession driver (sessionConfig database (knownBookmark? c ts)), .ok session⟩,
      ⟨.run session (probe database), .ok o⟩] ∧
    d.link.session? = some session ∧ d.actual? = o.database ∧ d.reported? = o.version

/-- How an error is reported that nothing else failed behind. -/
def unaccompanied (e : Driver.Error) : Failure :=
  if e = .interrupted then .interrupted else .transport e []

/-- The ways in which a connection switches to the database `name`. -/
inductive Switching (c : Connection) (name : String) :
    List Turn → Except Failure Unit → Connection → Prop where
  /-- Without an open session the name is noted, and that is all. -/
  | noted : Switching c name (looks c.link.session? false) (.ok ())
      { c.applyDiscard with active := name }
  | switched {session renewed : Driver.SessionRef} {driver : Driver.Ref} {ts : List Turn}
      {d : Connection} :
      c.link.session? = some session → c.link.driver? = some driver →
      Replacement driver { c with active := name } ts (.ok renewed) → Stands c name ts d →
      Switching c name (⟨.isOpen session, true⟩ :: ts) (.ok ()) d
  /-- Nobody is there to go on. -/
  | stranded {session : Driver.SessionRef} {driver : Driver.Ref} {ts : List Turn} {e : Driver.Error}
      {d : Connection} :
      c.link.session? = some session → c.link.driver? = some driver → c.interactive = false →
      Replacement driver { c with active := name } ts (.error e) → d.active = name →
      Switching c name (⟨.isOpen session, true⟩ :: ts) (.error (unaccompanied e)) d
  | restored {session renewed : Driver.SessionRef} {driver : Driver.Ref} {ts ts' : List Turn}
      {e : Driver.Error} {d : Connection} :
      c.link.session? = some session → c.link.driver? = some driver → c.interactive = true →
      Replacement driver { c with active := name } ts (.error e) →
      Replacement driver (ts.foldl keep c) ts' (.ok renewed) → Stands c c.active (ts ++ ts') d →
      Switching c name (⟨.isOpen session, true⟩ :: (ts ++ ts')) (.error (unaccompanied e)) d
  /-- The database before cannot be gone back to either. -/
  | lost {session : Driver.SessionRef} {driver : Driver.Ref} {ts ts' : List Turn}
      {e e' : Driver.Error} {d : Connection} :
      c.link.session? = some session → c.link.driver? = some driver → c.interactive = true →
      Replacement driver { c with active := name } ts (.error e) →
      Replacement driver (ts.foldl keep c) ts' (.error e') → d.active = c.active →
      Switching c name (⟨.isOpen session, true⟩ :: (ts ++ ts')) (.error (.transport e [e'])) d

/-! ## What is kept of the turns -/

variable {depth : Nat} {b c c' d : Connection} {log events : List Event} {ts ts' : List Turn}
  {driver : Driver.Ref} {session : Driver.SessionRef} {name : String}

theorem told?_append (ts ts' : List Turn) : told? (ts ++ ts') = (told? ts').or (told? ts) := by
  unfold told?
  rw [List.filterMap_append, List.getLast?_append]

theorem knownBookmark?_append (c : Connection) (ts ts' : List Turn) :
    knownBookmark? c (ts ++ ts') = (told? ts').or (knownBookmark? c ts) := by
  unfold knownBookmark?
  rw [told?_append, Option.or_assoc]

theorem keep_bookmark? (c : Connection) (t : Turn) :
    (c.keep t).bookmark? = t.bookmark?.or c.bookmark? := by
  obtain ⟨call, reply⟩ := t
  cases call with
  | openSession driver config => cases reply <;> rfl
  | run session query => cases reply <;> rfl
  | _ => rfl

/-- The latest bookmark is kept. -/
theorem foldl_keep_bookmark? (c : Connection) (ts : List Turn) :
    (ts.foldl keep c).bookmark? = knownBookmark? c ts := by
  induction ts generalizing c with
  | nil => rfl
  | cons t ts ih =>
    have hone : told? [t] = t.bookmark? := by
      unfold told?
      cases ht : t.bookmark? <;> simp [ht]
    calc ((t :: ts).foldl keep c).bookmark?
        = (told? ts).or (t.bookmark?.or c.bookmark?) := by
          rw [← keep_bookmark?]
          exact ih (c.keep t)
      _ = knownBookmark? c ([t] ++ ts) := by
          rw [knownBookmark?_append, knownBookmark?, hone]

theorem Alike.keep (h : Alike c d) (t : Turn) : Alike (c.keep t) (d.keep t) := by
  refine ⟨by simpa using h.driver, ?_, by simpa using h.active, ?_⟩
  · unfold Connection.keep
    split
    all_goals first | rfl | exact h.session
  · rw [keep_bookmark?, keep_bookmark?, h.bookmark]

theorem Alike.foldl_keep (h : Alike c d) (ts : List Turn) :
    Alike (ts.foldl Connection.keep c) (ts.foldl Connection.keep d) := by
  induction ts generalizing c d with
  | nil => exact h
  | cons t ts ih => exact ih (h.keep t)

theorem Alike.setActive (h : Alike c d) (name : String) :
    Alike { c with active := name } { d with active := name } :=
  ⟨h.driver, h.session, rfl, h.bookmark⟩

theorem keep_setActive (c : Connection) (t : Turn) (name : String) :
    Connection.keep { c with active := name } t = { c.keep t with active := name } := by
  unfold Connection.keep
  split <;> rfl

theorem foldl_keep_setActive (c : Connection) (ts : List Turn) (name : String) :
    ts.foldl Connection.keep { c with active := name } =
      { ts.foldl Connection.keep c with active := name } := by
  induction ts generalizing c with
  | nil => rfl
  | cons t ts ih =>
    rw [List.foldl_cons, List.foldl_cons, keep_setActive, ih]

theorem Follows.alike (h : Follows c ts d) : Alike (ts.foldl Connection.keep c) d :=
  ⟨h.driver.trans (foldl_keep (·.link.driver?) keep_driver? c ts).symm, h.session,
    h.active.trans (foldl_keep Connection.active keep_active c ts).symm, h.bookmark⟩

/-- Behind turns on another database, back on the one before. -/
theorem Follows.goBack (h : Follows b ts d) (hb : Alike { c with active := name } b) :
    Alike (ts.foldl Connection.keep c) { d with active := c.active } := by
  have hback := ((hb.foldl_keep ts).trans h.alike).setActive c.active
  rw [foldl_keep_setActive] at hback
  have hactive := foldl_keep Connection.active keep_active c ts
  exact ⟨hback.driver, hback.session, hactive.symm, hback.bookmark⟩

/-! ## Standing on a session -/

/-- A session that replaces another one is one to stand on. -/
theorem Replacement.stands (h : Replacement driver c ts (.ok session))
    (hdriver : c.link.driver? = some driver) (hd : Follows c ts d) : Stands c c.active ts d := by
  have hlast (o : Outcome) (front : List Turn)
      (hts : ts = front ++ [⟨.verify driver, .ok ()⟩,
        ⟨.openSession driver (sessionConfig c.active (knownBookmark? c ts)), .ok session⟩,
        ⟨.run session (probe c.active), .ok o⟩]) : Stands c c.active ts d := by
    have hnoted : d.actual? = o.database ∧ d.reported? = o.version := by
      show d.withdrawDiscard.actual? = _ ∧ d.withdrawDiscard.reported? = _
      rw [hd, hts, List.foldl_append]
      exact ⟨rfl, rfl⟩
    exact ⟨hd.active, hd.bookmark.trans (foldl_keep_bookmark? c ts), front, driver, session, o,
      hdriver, hts, hd.session.trans h.session, hnoted⟩
  cases h with
  | first _ hrenewal =>
    cases hrenewal with
    | renewed _ o => exact hlast o [] rfl
  -- the turns with the session before are in front, and tell the bookmark that is handed on
  | @next previous latest? closed _ _ _ hrenewal =>
    cases hrenewal with
    | renewed _ o =>
      refine hlast o [⟨.lastBookmark previous, latest?⟩, ⟨.closeSession previous, closed⟩] ?_
      cases latest? <;> rfl

/-- Turns before, of which the bookmark is known. -/
theorem Stands.behind {database : String} (h : Stands b database ts' d)
    (hdriver : b.link.driver? = c.link.driver?) (hbookmark : b.bookmark? = knownBookmark? c ts) :
    Stands c database (ts ++ ts') d := by
  have hlatest : knownBookmark? b ts' = knownBookmark? c (ts ++ ts') := by
    rw [knownBookmark?_append, ← hbookmark]
    rfl
  obtain ⟨hactive, hkept, front, driver, session, o, hby, hts, hstands⟩ := h
  rw [hlatest] at hkept hts
  refine ⟨hactive, hkept, ts ++ front, driver, session, o, hdriver ▸ hby, ?_, hstands⟩
  rw [List.append_assoc, ← hts]

/-- The way back, behind turns on another database. -/
theorem Follows.runs_goBack {r : Except Driver.Error Unit} (h : Follows b ts d)
    (hb : Alike { c with active := name } b) (hdriver : c.link.driver? = some driver)
    (hrun : Runs (handleUses depth) reconnect.run { d with active := c.active } events r c') :
    ∃ renewed, Replacement driver (ts.foldl Connection.keep c) (turns events) renewed ∧
      r = renewed.map (fun _ => ()) ∧ c'.active = c.active ∧
      ∀ session, renewed = .ok session → Stands c c.active (ts ++ turns events) c' := by
  have hback := h.goBack hb
  have hhere := hback.driver.trans
    ((foldl_keep (·.link.driver?) keep_driver? c ts).trans hdriver)
  obtain ⟨renewed, hreplacement, rfl, hfollows⟩ := runs_reconnect hhere hrun
  refine ⟨renewed, hback.replacement hreplacement, rfl, hfollows.active, ?_⟩
  rintro session rfl
  exact (hreplacement.stands hhere hfollows).behind (hhere.trans hdriver.symm)
    (hback.bookmark.trans (foldl_keep_bookmark? c ts))

/-! ## The whole switch -/

theorem ofTransport_nil (e : Driver.Error) : Failure.ofTransport e [] = unaccompanied e := by
  simp [ofTransport_eq, unaccompanied]

/-- With no transaction open the handle finds nothing to discard. -/
theorem Looks.eq_of_closed {connected : Bool} (h : Looks depth c events connected d)
    (hdiscard : c.link.discardRequested = false) (hopen : c.link.transactionOpen = false) : d = c := by
  cases h with
  | nothing => rfl
  | session _ huses =>
    have hquiet : d.link.discardRequested = c.link.discardRequested := by
      cases hrequest : d.link.discardRequested with
      | false => exact hdiscard.symm
      | true =>
        rcases (handleUses_undergoes huses).requested hrequest with h | h
        · rw [hdiscard] at h
          cases h
        · rw [hopen] at h
          cases h
    rw [(handleUses_attends huses).rest, hquiet]

theorem applyDiscard_interactive (c : Connection) : c.applyDiscard.interactive = c.interactive := by
  unfold applyDiscard
  split <;> rfl

/-- Of a transaction that is not open nothing is left once it is settled. -/
theorem applyDiscard_flag (hcoherent : c.link.transactionOpen = c.pending?.isSome)
    (hclosed : c.transactionOpen = false) : c.applyDiscard.link.transactionOpen = false := by
  have hgone : c.link.discardRequested = true ∨
      c.pending? = none ∧ c.link.transactionOpen = false := by
    rw [hcoherent]
    unfold transactionOpen at hclosed
    cases hpending : c.pending? with
    | none => exact .inr ⟨rfl, rfl⟩
    | some queries => simpa [hpending] using hclosed
  exact (applyDiscard_closed hgone).2

/-- A switch, whatever the driver answers and whenever the handle is used. -/
theorem runs_switchDatabase {interactive : Bool} {r : Except Failure Unit}
    (h : Visited depth interactive log c) (hclosed : c.transactionOpen = false)
    (hrun : Runs (handleUses depth) (switchDatabase name).run c events r c') :
    Switching c name (turns events) r c' := by
  have hsettled := Attempt.runs_get_bind (runs_settle_bind hrun)
  rw [applyDiscard_transactionOpen, hclosed] at hsettled
  obtain ⟨_, _, _, rest, hactivate, hrest, rfl⟩ := Attempt.runs_lift_bind hsettled
  obtain ⟨rfl, rfl, rfl⟩ := runs_modifyGet hactivate
  obtain ⟨first, connected, d, second, hlook, hrest, rfl⟩ := Attempt.runs_lift_bind hrest
  have hlooks := runs_isConnected hlook
  obtain rfl := hlooks.eq_of_closed (applyDiscard_discardRequested c)
    (applyDiscard_flag h.rests.sound.coherent hclosed)
  -- both replacements are related to `c` itself, which the settled connection is like
  have hstart := (alike_applyDiscard c).setActive name
  have hturns : turns first = looks c.link.session? connected :=
    hlooks.turns_eq.trans (congrArg (looks · connected) hstart.session)
  cases connected with
  | false =>
    obtain ⟨rfl, rfl, rfl⟩ := Attempt.runs_pure hrest
    rw [List.nil_append, List.append_nil, hturns]
    exact .noted
  | true =>
    obtain ⟨session, hsession⟩ := Option.isSome_iff_exists.1 hlooks.session?_isSome
    have hthere : c.link.session? = some session := hstart.session.symm.trans hsession
    obtain ⟨driver, hdriver⟩ :=
      Option.isSome_iff_exists.1 (h.rests.sound.installed (by rw [hthere]; rfl))
    rw [hthere, looks_some] at hturns
    obtain ⟨third, _, c₁, fourth, hreconnect, hrest, rfl⟩ := Attempt.runs_lift_bind hrest
    obtain ⟨renewed, hreplacement, rfl, hfollows⟩ :=
      runs_reconnect (hstart.driver.trans hdriver) hreconnect
    have hfirst := hstart.replacement hreplacement
    rw [List.nil_append, turns_append, turns_append, hturns, List.singleton_append]
    cases renewed with
    | ok renewed =>
      obtain ⟨rfl, rfl, rfl⟩ := Attempt.runs_pure hrest
      have hstands : Stands c name ([] ++ turns third) c' :=
        (hreplacement.stands (hstart.driver.trans hdriver) hfollows).behind hstart.driver
          hstart.bookmark
      rw [turns_nil, List.append_nil]
      exact .switched hthere hdriver hfirst hstands
    | error e =>
      have hrest := Attempt.runs_get_bind hrest
      have hinteractive : c₁.interactive = c.interactive :=
        hfollows.interactive.trans (applyDiscard_interactive c)
      rw [hinteractive] at hrest
      cases hmode : c.interactive with
      | false =>
        rw [hmode] at hrest
        obtain ⟨rfl, rfl, rfl⟩ := Attempt.runs_throw hrest
        rw [turns_nil, List.append_nil, ofTransport_nil]
        exact .stranded hthere hdriver hmode hfirst hfollows.active
      | true =>
        rw [hmode] at hrest
        obtain ⟨_, _, _, _, hactivate, hrest, rfl⟩ := Attempt.runs_lift_bind hrest
        obtain ⟨rfl, rfl, rfl⟩ := runs_modifyGet hactivate
        obtain ⟨fifth, _, c₂, sixth, hreconnect, hrest, rfl⟩ := Attempt.runs_lift_bind hrest
        have hbefore : c.applyDiscard.active = c.active := (alike_applyDiscard c).active
        dsimp only at hreconnect
        rw [hbefore] at hreconnect
        obtain ⟨renewed, hsecond, rfl, hactive, hstands⟩ :=
          hfollows.runs_goBack hstart hdriver hreconnect
        rw [List.nil_append, turns_append]
        cases renewed with
        | ok renewed =>
          obtain ⟨rfl, rfl, rfl⟩ := Attempt.runs_throw_bind hrest
          rw [turns_nil, List.append_nil, ofTransport_nil]
          exact .restored hthere hdriver hmode hfirst hsecond (hstands renewed rfl)
        | error e' =>
          obtain ⟨rfl, rfl, rfl⟩ := Attempt.runs_throw_bind hrest
          rw [turns_nil, List.append_nil]
          exact .lost hthere hdriver hmode hfirst hsecond hactive

/-- A driver whose second session is interrupted while it is tested; only the first one has a bookmark
to tell. -/
def faltering : (call : Call) → Connection × Nat → List Event × call.Reply × (Connection × Nat)
  | .driver (.openSession _ _), (c, opened) => ([], .ok ⟨opened⟩, (c, opened + 1))
  | .driver (.lastBookmark ⟨0⟩), cw => ([], some ["bookmark:1"], cw)
  | .driver (.run ⟨1⟩ _), (c, opened) =>
    let reset := interrupt.trace Program.willing c
    (.interrupted :: reset.1 ++ [], .error .interrupted, (reset.2.2, opened))
  | .driver (.run _ _), cw => ([], .ok { database := some "neo4j" }, cw)
  | call, cw => ([], Program.willing call, cw)

theorem faltering_uses (call : Call) (cw : Connection × Nat) :
    handleUses 1 cw.1 (faltering call cw).1 (faltering call cw).2.2.1 := by
  unfold faltering
  split
  case h_3 c opened =>
    have hreset := runs_trace (handleUses_quiet 0) Program.willing interrupt c
    exact Uses.reset hreset .none
  all_goals exact handleUses_quiet 1 _

/-- The bookmark gets past the session that was interrupted. -/
theorem switching_restored :
    let before := rehearse faltering [.connect {}] ({ interactive := true }, 0)
    let switch := (switchDatabase "films").run.rehearse faltering before.2
    Visited 1 true before.1 before.2.1 ∧ before.2.1.transactionOpen = false ∧
      Runs (handleUses 1) (switchDatabase "films").run before.2.1 switch.1 (.error .interrupted)
        switch.2.2.1 ∧
      switch.2.2.1.link.session? = some ⟨2⟩ ∧ switch.2.2.1.bookmark? = some ["bookmark:1"] ∧
      Switching before.2.1 "films" (turns switch.1) (.error .interrupted) switch.2.2.1 := by
  intro before switch
  have hvisited : Visited 1 true ([] ++ before.1) before.2.1 :=
    visited_rehearse faltering_uses _ 0 .new
  rw [List.nil_append] at hvisited
  have hclosed : before.2.1.transactionOpen = false := by decide +kernel
  have hfails : switch.2.1 = .error .interrupted := by decide +kernel
  have hrun : Runs (handleUses 1) (switchDatabase "films").run before.2.1 switch.1
      (.error .interrupted) switch.2.2.1 := runs_of_rehearse faltering_uses rfl hfails
  exact ⟨hvisited, hclosed, hrun, by decide +kernel, by decide +kernel,
    runs_switchDatabase hvisited hclosed hrun⟩

end QueryShell.Connection
