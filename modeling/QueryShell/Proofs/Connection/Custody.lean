import QueryShell.Proofs.Connection.Holdings

/-
What operations make of what a connection holds. Each takes the session and the driver out of the link
before it closes them, and puts a new one in as soon as it has it; in between the link has less than
what is held, and nobody but the operation knows of the rest.

The answers may be all there are, or only those inside a condition on the log.
-/
namespace QueryShell.Connection

open Program

variable {depth : Nat} {t : Terms} {s s' : Connection × List Event}
  {answers : Answers Connection (List Event)}
  (hanswers : ∀ {call : Call} {s : Connection × List Event} {reply : call.Reply}
    {s' : Connection × List Event}, answers call s reply s' → asks (handleUses depth) call s reply s')

include hanswers

/-! ## The open session -/

theorem Owns.ensures_steady (h : Owns t s) (call : Call) (hsteady : Steady call)
    (hfits : Fits ⟨t.driver?, s.1.link.session?⟩ (.asked call))
    (hattempt : ∀ reply, attempt? (.answered call reply) = none) :
    Ensures answers (Program.call call) (fun _ s' => Owns t s' ∧ Spares s.1 s'.1) s := by
  refine (ensures_call call _ s).2 fun reply s' hreply => ?_
  have hasks := hanswers hreply
  exact ⟨h.steady hasks hsteady hfits (hattempt reply), asks_spares hasks⟩

theorem Owns.ensures_openSession? (h : Owns t s) :
    Ensures answers openSession? (fun session? s' => (Owns t s' ∧ Spares s.1 s'.1) ∧
      ∀ session, session? = some session → s'.1.link.session? = some session) s := by
  unfold openSession?
  rw [ensures_bind, ensures_get]
  cases hsession : s.1.link.session? with
  | none => exact ⟨⟨h, .refl s.1⟩, nofun⟩
  | some session =>
    dsimp only
    rw [ensures_bind]
    refine (h.ensures_steady hanswers (.driver (.isOpen session)) trivial hsession
      fun _ => rfl).weaken ?_
    rintro isOpen s' ⟨howns, hspares⟩
    refine ⟨⟨howns, hspares⟩, fun found hfound => ?_⟩
    cases isOpen with
    | false => cases hfound
    | true =>
      cases hfound
      exact hspares.session.trans hsession

theorem Owns.ensures_isConnected (h : Owns t s) :
    Ensures answers isConnected (fun connected s' => (Owns t s' ∧ Spares s.1 s'.1) ∧
      (connected = true → s'.1.link.session?.isSome = true)) s := by
  unfold isConnected
  rw [ensures_bind]
  refine (h.ensures_openSession? hanswers).weaken ?_
  rintro session? s' ⟨hlooked, hfound⟩
  refine ⟨hlooked, fun hsome => ?_⟩
  obtain ⟨session, rfl⟩ := Option.isSome_iff_exists.1 hsome
  rw [hfound session rfl]
  rfl

theorem Owns.ensures_requireSession (h : Owns t s) :
    Ensures answers requireSession.run (fun r s' => (Owns t s' ∧ Spares s.1 s'.1) ∧
      ∀ session, r = .ok session → s'.1.link.session? = some session) s := by
  unfold requireSession
  rw [Attempt.ensures_lift_bind]
  refine (h.ensures_openSession? hanswers).weaken ?_
  rintro session? s' ⟨hlooked, hfound⟩
  cases session? with
  | none => exact ⟨hlooked, nofun⟩
  | some session =>
    refine ⟨hlooked, fun other hother => ?_⟩
    cases hother
    exact hfound session rfl

/-! ## Sessions -/

theorem Retiring.ensures_closeSession {session : Driver.SessionRef} (h : Retiring t session s) :
    Ensures answers (Program.driver (.closeSession session))
      (fun _ s' => Sessionless t s' ∧ Spares s.1 s'.1) s := by
  refine (ensures_call (.driver (.closeSession session)) _ s).2 fun reply s' hreply => ?_
  have hasks := hanswers hreply
  have hspares := asks_spares hasks
  have hnone := hspares.session.trans h.session
  have hwithin : Within s.1.link ⟨t.driver?, none⟩ :=
    ⟨h.charge.within.driver, fun other hother => h.session ▸ hother⟩
  have hcharge : InCharge ⟨t.driver?, none⟩ s' := h.charge.ask hasks rfl hwithin trivial hwithin
  rw [← hnone] at hcharge
  exact ⟨⟨⟨hcharge, hspares.terms.trans h.terms⟩, hnone⟩, hspares⟩

/-- The session before is closed, and without one the bookmark stays. -/
theorem Has.ensures_retireSession (h : Has t s) :
    Ensures answers retireSession (fun bookmark? s' => Sessionless t s' ∧ s'.1.bookmark? = bookmark? ∧
      (s.1.link.session? = none → s'.1.bookmark? = s.1.bookmark?)) s := by
  unfold retireSession takeSession saveBookmark
  rw [ensures_bind, ensures_modifyGet]
  dsimp only
  cases hsession : s.1.link.session? with
  | none =>
    have hless := h.sessionless hsession
    exact ⟨hless.bookmark _, rfl, fun _ => rfl⟩
  | some session =>
    have hretiring := h.retiring hsession
    rw [ensures_bind]
    refine (ensures_call (.driver (.lastBookmark session)) _ _).2 fun latest? s' hreply => ?_
    have hasks := hanswers hreply
    have hspares := asks_spares hasks
    have hasked : Retiring t session s' :=
      ⟨hretiring.charge.steady hasks trivial rfl, hspares.terms.trans hretiring.terms,
        hspares.session.trans hretiring.session⟩
    rw [ensures_bind, ensures_modifyGet, ensures_bind]
    refine ((hasked.bookmark _).ensures_closeSession hanswers).weaken ?_
    rintro reply s'' ⟨hless, hspares⟩
    cases reply with
    | ok => exact ⟨hless, hspares.bookmark, nofun⟩
    | error e =>
      dsimp only
      rw [ensures_bind]
      refine (ensures_call (.console (.warn .connection _)) _ _).2 fun reply s' hreply => ?_
      obtain ⟨hwarned, hstill⟩ := hless.steady (hanswers hreply) trivial trivial
      exact ⟨hwarned, hstill.bookmark.trans hspares.bookmark, nofun⟩

/-- Wherever `reconnect` fails, the link has all that is held. -/
theorem Has.ensures_reconnect {driver : Driver.Ref} (h : Has t s)
    (hdriver : t.driver? = some driver) : Ensures answers reconnect.run (fun r s' => Owns t s' ∧
      (r = .ok () → s'.1.link.session?.isSome = true) ∧
      (s.1.link.session? = none → s'.1.bookmark? = s.1.bookmark?)) s := by
  unfold reconnect
  rw [Attempt.ensures_get_bind, h.driver, hdriver]
  dsimp only
  rw [Attempt.ensures_lift_bind]
  refine (h.ensures_retireSession hanswers).weaken ?_
  rintro bookmark? s₁ ⟨hless, hbookmark, hkept⟩
  rw [Attempt.ensures_bind]
  refine (ensures_call (.driver (.verify driver)) _ s₁).2 fun reply s₂ hreply => ?_
  have hasks := hanswers hreply
  obtain ⟨hverified, hspares⟩ := hless.steady hasks trivial hdriver
  have hkept₂ := fun hnone => hspares.bookmark.trans (hkept hnone)
  cases reply with
  | error e =>
    have howns := hverified.owns hdriver (asks_attempted hasks rfl)
    exact ⟨howns, nofun, hkept₂⟩
  | ok =>
    refine (Attempt.ensures_get_bind _ _ s₂).2 ?_
    rw [Attempt.ensures_bind]
    refine (ensures_call (.driver (.openSession driver _)) _ s₂).2 fun reply s₃ hreply => ?_
    have hasks := hanswers hreply
    have hspares₃ := asks_spares hasks
    have hkept₃ := fun hnone => hspares₃.bookmark.trans (hkept₂ hnone)
    cases reply with
    | error e =>
      have howns := (hverified.unopened hdriver hasks).owns hdriver (asks_attempted hasks rfl)
      exact ⟨howns, nofun, hkept₃⟩
    | ok session =>
      have howns := hverified.putSession hdriver
        (hbookmark.symm.trans hspares.bookmark.symm) hasks
      refine (Attempt.ensures_lift_bind _ _ _ _).2 ?_
      unfold putSession
      rw [ensures_modify, Attempt.ensures_get_bind, Attempt.ensures_bind]
      refine (howns.ensures_steady hanswers (.driver (.run session _)) trivial rfl
        fun _ => rfl).weaken ?_
      rintro reply s₄ ⟨hrun, hspares₄⟩
      have hopen : s₄.1.link.session?.isSome = true := by
        rw [hspares₄.session]
        rfl
      have hkept₄ := fun hnone => hspares₄.bookmark.trans (hkept₃ hnone)
      cases reply with
      | error e => exact ⟨hrun, nofun, hkept₄⟩
      | ok outcome => exact ⟨hrun.noteOpen hopen rfl rfl rfl, fun _ => hopen, hkept₄⟩

/-! ## Connections -/

/-- The driver is taken out and closed, if there is one. -/
theorem Sessionless.ensures_closeDriver {α : Type} {f : Option Driver.Ref → Program Connection α}
    {g : Driver.Ref → Except Driver.Error Unit → Program Connection α}
    {post : α → Connection × List Event → Prop} (h : Sessionless t s)
    (hclose : ∀ driver, f (some driver) = Program.driver (.closeDriver driver) >>= g driver)
    (hnone : ∀ s, Sessionless { t with driver? := none } s → Ensures answers (f none) post s)
    (hclosed : ∀ driver r s, Sessionless { t with driver? := none } s →
      Ensures answers (g driver r) post s) :
    Ensures answers (takeDriver >>= f) post s := by
  have hcharge := h.charge
  have hterms : ({ s.1 with link := { s.1.link with driver? := none } } : Connection).terms =
      { t with driver? := none } := by
    rw [← h.terms]
    rfl
  rw [h.session] at hcharge
  unfold takeDriver
  rw [ensures_bind, ensures_modifyGet]
  dsimp only
  cases hdriver : s.1.link.driver? with
  | none =>
    -- no driver in the link is no driver held, as the link has all of it
    have hheld : Connection.held s.2 = ⟨none, none⟩ := by
      rw [hcharge.held, ← h.driver, hdriver]
    refine hnone _ ⟨⟨⟨hcharge.orderly, hheld.trans ?_, nofun, fun _ => id⟩, hterms⟩, h.session⟩
    exact congrArg (Holding.mk none) h.session.symm
  | some driver =>
    rw [hclose, ensures_bind]
    refine (ensures_call (.driver (.closeDriver driver)) _ _).2 fun reply s' hreply => ?_
    have hasks := hanswers hreply
    have hspares := asks_spares hasks
    have hnone := hspares.session.trans h.session
    have htaken : InCharge ⟨t.driver?, none⟩
        ({ s.1 with link := { s.1.link with driver? := none } }, s.2) :=
      ⟨hcharge.orderly, hcharge.held, nofun, hcharge.within.session⟩
    have hwithin : Within { s.1.link with driver? := none } ⟨none, none⟩ :=
      ⟨nofun, hcharge.within.session⟩
    have hafter : InCharge ⟨none, none⟩ s' :=
      htaken.ask hasks ⟨h.driver.symm.trans hdriver, rfl⟩ hwithin trivial hwithin
    rw [← hnone] at hafter
    exact hclosed driver reply s' ⟨⟨hafter, hspares.terms.trans hterms⟩, hnone⟩

/-- Whatever fails, nothing is left. -/
theorem Has.ensures_tearDown (h : Has t s) :
    Ensures answers tearDown (fun _ => Owns { t with driver? := none }) s := by
  unfold tearDown takeSession
  rw [ensures_bind, ensures_modifyGet]
  dsimp only
  cases hsession : s.1.link.session? with
  | none =>
    have hless := h.sessionless hsession
    show Ensures _ (takeDriver >>= _) _ _
    refine hless.ensures_closeDriver hanswers (fun _ => rfl) (fun _ h => h.forget) ?_
    rintro driver (e | _) s h
    · exact h.forget
    · exact h.forget
  | some session =>
    rw [ensures_bind]
    refine ((h.retiring hsession).ensures_closeSession hanswers).weaken ?_
    rintro (e | _) s ⟨hless, -⟩
    · show Ensures _ (takeDriver >>= _) _ _
      refine hless.ensures_closeDriver hanswers (fun _ => rfl) (fun _ h => h.forget) ?_
      rintro driver (e | _) s h
      · exact h.forget
      · exact h.forget
    · show Ensures _ (takeDriver >>= _) _ _
      refine hless.ensures_closeDriver hanswers (fun _ => rfl) (fun _ h => h.forget) ?_
      rintro driver (e | _) s h
      · exact h.forget
      · exact h.forget

/-- The new driver takes the place of the one before, if there is one. -/
theorem Has.ensures_establish (endpoint : Endpoint) (h : Has t s) :
    Ensures answers (establish endpoint).run (fun r s' =>
      ∃ driver?, Has { t with driver? } s' ∧ (r = .ok () → Owns { t with driver? } s' ∧
        s'.1.link.session?.isSome = true ∧
        (s.1.link.session? = none → s'.1.bookmark? = s.1.bookmark?))) s := by
  unfold establish
  rw [Attempt.ensures_bind]
  refine (ensures_call (.driver (.openDriver endpoint)) _ s).2 fun reply s₁ hreply => ?_
  have hasks := hanswers hreply
  have hspares := asks_spares hasks
  have hcharge := h.charge
  rw [← hspares.session] at hcharge
  have hwithin : Within s.1.link ⟨t.driver?, s₁.1.link.session?⟩ := hcharge.within
  cases reply with
  | error e =>
    have hasked := hcharge.ask hasks trivial hwithin trivial hwithin
    exact ⟨t.driver?, ⟨hasked, hspares.terms.trans h.terms⟩, nofun⟩
  | ok driver =>
    -- the driver before is given up here, if there is one, and the new one is held in its place
    obtain ⟨horderly, hheld⟩ := hcharge.answered hasks trivial hwithin trivial
    have hput : Has { t with driver? := some driver }
        ({ s₁.1 with link := { s₁.1.link with driver? := some driver } }, s₁.2) := by
      refine ⟨⟨horderly, hheld, fun _ => id, fun _ => id⟩, ?_⟩
      rw [← h.terms, ← hspares.terms]
      rfl
    refine (Attempt.ensures_lift_bind _ _ _ _).2 ?_
    unfold putDriver
    rw [ensures_modify]
    refine (hput.ensures_reconnect hanswers rfl).weaken ?_
    rintro r s₂ ⟨howns, hopen, hkept⟩
    refine ⟨some driver, howns.toHas, fun hok => ⟨howns, hopen hok, fun hnone => ?_⟩⟩
    exact (hkept (hspares.session.trans hnone)).trans hspares.bookmark

/-! ## Operations -/

/-- A failed connect leaves nothing behind, unless it was refused. -/
theorem Owns.ensures_connect (endpoint : Endpoint) (h : Owns t s) :
    Ensures answers (connect endpoint).run (fun r s' => ∃ t', Owns t' s' ∧
      t'.interactive = t.interactive ∧
      (r = .ok () → s'.1.link.session?.isSome = true ∧ (t.driver? = none → s'.1.bookmark? = none)) ∧
      ∀ e, r = .error e → e = .refused .alreadyConnected ∨ t'.driver? = none) s := by
  unfold connect
  rw [ensures_settle_bind, Attempt.ensures_lift_bind]
  refine (h.settled.ensures_isConnected hanswers).weaken ?_
  rintro connected s₁ ⟨⟨howns, hspares⟩, hopen⟩
  cases connected with
  | true =>
    refine ⟨t, howns, rfl, nofun, fun e he => .inl ?_⟩
    cases he
    rfl
  | false =>
    refine (Attempt.ensures_modify_bind _ _ _ _).2 ?_
    rw [Attempt.ensures_lift_bind]
    have hactive : Has { t with active := endpoint.database }
        ({ s₁.1 with active := endpoint.database }, s₁.2) := by
      refine ⟨⟨howns.charge.orderly, howns.charge.held, howns.charge.within⟩, ?_⟩
      rw [← howns.terms]
      rfl
    refine (hactive.ensures_establish hanswers endpoint).weaken ?_
    rintro (source | _) s₂ ⟨driver?, hhas, hok⟩
    · refine (Attempt.ensures_lift_bind _ _ _ _).2 ?_
      refine (hhas.ensures_tearDown hanswers).weaken fun _ s₃ howns => ?_
      exact ⟨_, howns, rfl, nofun, fun _ _ => .inr rfl⟩
    · obtain ⟨howns', hsome, hkept⟩ := hok rfl
      refine ⟨_, howns', rfl, fun _ => ⟨hsome, fun hnone => ?_⟩, nofun⟩
      have hvacant := howns.vacant hnone
      exact (hkept hvacant.session).trans hvacant.bookmark

theorem Has.ensures_disconnect (h : Has t s) :
    Ensures answers disconnect (fun _ => Owns { t with driver? := none }) s := by
  unfold disconnect
  rw [ensures_bind]
  refine (h.ensures_tearDown hanswers).weaken fun failures s h => ?_
  refine ensures_forM (fun failure s h => ?_) failures h
  exact (h.ensures_steady hanswers (.console (.warn .connection _)) trivial trivial
    fun _ => rfl).weaken fun _ _ => And.left

/-- A failed switch goes back to the database before, if someone is there to go on. -/
theorem Owns.ensures_switchDatabase (name : String) (h : Owns t s) :
    Ensures answers (switchDatabase name).run (fun r s' => ∃ active, Owns { t with active } s' ∧
      (r = .ok () → active = name ∧
        (s.1.link.session?.isSome = true → s'.1.link.session?.isSome = true)) ∧
      ∀ e, r = .error e → t.interactive = true → active = t.active) s := by
  have hsettled := applyDiscard_session? s.1
  unfold switchDatabase
  rw [ensures_settle_bind, Attempt.ensures_get_bind]
  split
  · exact ⟨t.active, h.settled, nofun, fun _ _ _ => rfl⟩
  refine (Attempt.ensures_lift_bind _ _ _ _).2 ?_
  unfold activate
  rw [ensures_modifyGet, Attempt.ensures_lift_bind]
  refine ((h.settled.setActive name).ensures_isConnected hanswers).weaken ?_
  rintro connected s₁ ⟨⟨howns, hspares⟩, hopen⟩
  cases connected with
  | false =>
    refine ⟨name, howns, fun _ => ⟨rfl, fun hsome => ?_⟩, nofun⟩
    rwa [hspares.session.trans hsettled]
  | true =>
    obtain ⟨driver, hdriver⟩ := Option.isSome_iff_exists.1 (howns.driver_isSome (hopen rfl))
    refine (Attempt.ensures_lift_bind _ _ _ _).2 ?_
    refine (howns.ensures_reconnect hanswers hdriver).weaken ?_
    rintro (source | _) s₂ ⟨howns₂, hok, -⟩
    · have hinteractive : s₂.1.interactive = t.interactive := congrArg Terms.interactive howns₂.terms
      refine (Attempt.ensures_get_bind _ _ _).2 ?_
      split
      · have hback : s.1.applyDiscard.active = t.active := congrArg Terms.active h.settled.terms
        refine (Attempt.ensures_lift_bind _ _ _ _).2 ?_
        rw [ensures_modifyGet, Attempt.ensures_lift_bind]
        have hagain := howns₂.setActive s.1.applyDiscard.active
        refine (hagain.ensures_reconnect hanswers hdriver).weaken ?_
        rintro (e | _) s₃ ⟨howns₃, -, -⟩
        · exact ⟨_, howns₃, nofun, fun _ _ _ => hback⟩
        · exact ⟨_, howns₃, nofun, fun _ _ _ => hback⟩
      · rename_i hnot
        rw [hinteractive] at hnot
        exact ⟨_, howns₂, nofun, fun _ _ hyes => absurd hyes hnot⟩
    · exact ⟨_, howns₂, fun _ => ⟨rfl, fun _ => hok rfl⟩, nofun⟩

/-- What operations on an open session start with. -/
theorem Owns.ensures_connected {α : Type} {f : Unit → Attempt Connection Failure α}
    {post : Except Failure α → Connection × List Event → Prop} (h : Owns t s)
    (hrefused : ∀ s', Owns t s' → s'.1.link.session? = s.1.link.session? →
      post (.error (.refused .notConnected)) s')
    (hf : ∀ s', Owns t s' → s'.1.link.session? = s.1.link.session? →
      s'.1.link.session?.isSome = true → Ensures answers (f ()).run post s') :
    Ensures answers (settle >>= fun _ => requireConnected >>= f).run post s := by
  have hsettled := applyDiscard_session? s.1
  unfold requireConnected
  rw [ensures_settle_bind, Attempt.ensures_bind, Attempt.ensures_lift_bind]
  refine (h.settled.ensures_isConnected hanswers).weaken ?_
  rintro connected s' ⟨⟨howns, hspares⟩, hopen⟩
  cases connected with
  | false => exact hrefused s' howns (hspares.session.trans hsettled)
  | true => exact hf s' howns (hspares.session.trans hsettled) (hopen rfl)

theorem Owns.ensures_begin (h : Owns t s) :
    Ensures answers begin.run
      (fun _ s' => Owns t s' ∧ s'.1.link.session? = s.1.link.session?) s := by
  refine h.ensures_connected hanswers (fun _ => And.intro) fun s' howns hsame hopen => ?_
  rw [Attempt.ensures_get_bind]
  split
  · exact ⟨howns, hsame⟩
  · exact ⟨howns.noteOpen hopen rfl rfl rfl, hsame⟩

theorem Owns.ensures_commit (h : Owns t s) :
    Ensures answers commit.run
      (fun _ s' => Owns t s' ∧ s'.1.link.session? = s.1.link.session?) s := by
  refine h.ensures_connected hanswers (fun _ => And.intro) fun s₁ howns hsame hopen => ?_
  unfold takePending
  rw [Attempt.ensures_lift_bind, ensures_modifyGet]
  cases s₁.1.pending? with
  | none => exact ⟨howns, hsame⟩
  | some queries =>
    have hdropped := howns.dropTransaction
    cases queries with
    | nil => exact ⟨hdropped, hsame⟩
    | cons query queries =>
      refine (Attempt.ensures_bind _ _ _ _).2 ?_
      refine (hdropped.ensures_requireSession hanswers).weaken ?_
      rintro (e | session) s₂ ⟨⟨howns₂, hspares⟩, hfound⟩
      · exact ⟨howns₂, hspares.session.trans hsame⟩
      have hsession := hfound session rfl
      refine (Attempt.ensures_bind _ _ _ _).2 ((Attempt.ensures_mapError _ _ _ _).2 ?_)
      refine (howns₂.ensures_steady hanswers (.driver (.write session (query :: queries))) trivial
        hsession fun _ => rfl).weaken ?_
      rintro (e | outcomes) s₃ ⟨howns₃, hspares₃⟩
      · exact ⟨howns₃, (hspares₃.session.trans hspares.session).trans hsame⟩
      · have hopen₃ : s₃.1.link.session?.isSome = true := by
          rw [hspares₃.session, hsession]
          rfl
        exact ⟨howns₃.noteOpen hopen₃ rfl rfl rfl,
          (hspares₃.session.trans hspares.session).trans hsame⟩

theorem Owns.ensures_rollback (h : Owns t s) :
    Ensures answers rollback.run
      (fun _ s' => Owns t s' ∧ s'.1.link.session? = s.1.link.session?) s := by
  refine h.ensures_connected hanswers (fun _ => And.intro) fun s₁ howns hsame _ => ?_
  unfold takePending
  rw [Attempt.ensures_lift_bind, ensures_modifyGet]
  cases s₁.1.pending? with
  | none => exact ⟨howns, hsame⟩
  | some queries => exact ⟨howns.dropTransaction, hsame⟩

/-- A query is sent to an open session. -/
theorem Owns.ensures_run (query : Query) {session : Driver.SessionRef} (h : Owns t s)
    (hsession : s.1.link.session? = some session) :
    Ensures answers (Program.driver (.run session query))
      (fun _ s' => Owns t s' ∧ s'.1.link.session?.isSome = true) s := by
  refine (h.ensures_steady hanswers (.driver (.run session query)) trivial hsession
    fun _ => rfl).weaken ?_
  rintro reply s' ⟨howns, hspares⟩
  refine ⟨howns, ?_⟩
  rw [hspares.session, hsession]
  rfl

theorem Owns.ensures_runNow (query : Query) (h : Owns t s) :
    Ensures answers (runNow query).run (fun _ => Owns t) s := by
  unfold runNow
  rw [Attempt.ensures_bind]
  refine (h.ensures_requireSession hanswers).weaken ?_
  rintro (e | session) s₁ ⟨⟨howns, -⟩, hfound⟩
  · exact howns
  refine (Attempt.ensures_lift_bind _ _ _ _).2 ?_
  refine (howns.ensures_run hanswers query (hfound session rfl)).weaken ?_
  rintro (e | outcome) s₂ ⟨howns₂, hopen⟩
  · cases e with
    | sessionExpired message =>
      obtain ⟨driver, hdriver⟩ := Option.isSome_iff_exists.1 (howns₂.driver_isSome hopen)
      refine (Attempt.ensures_bind _ _ _ _).2 ((Attempt.ensures_mapError _ _ _ _).2 ?_)
      refine (howns₂.ensures_reconnect hanswers hdriver).weaken ?_
      rintro (e | _) s₃ ⟨howns₃, -, -⟩
      · exact howns₃
      refine (Attempt.ensures_bind _ _ _ _).2 ?_
      refine (howns₃.ensures_requireSession hanswers).weaken ?_
      rintro (e | session) s₄ ⟨⟨howns₄, -⟩, hfound⟩
      · exact howns₄
      refine (Attempt.ensures_bind _ _ _ _).2 ((Attempt.ensures_mapError _ _ _ _).2 ?_)
      refine (howns₄.ensures_run hanswers query (hfound session rfl)).weaken ?_
      rintro (e | outcome) s₅ ⟨howns₅, hopen₅⟩
      · exact howns₅
      · exact howns₅.noteOpen hopen₅ rfl rfl rfl
    | _ => exact howns₂
  · exact howns₂.noteOpen hopen rfl rfl rfl

theorem Owns.ensures_runStatement (query : Query) (h : Owns t s) :
    Ensures answers (runStatement query).run (fun _ => Owns t) s := by
  refine h.ensures_connected hanswers (fun _ howns _ => howns) fun s₁ howns _ hopen => ?_
  rw [Attempt.ensures_get_bind]
  split
  · exact howns.noteOpen hopen rfl rfl rfl
  · refine (Attempt.ensures_bind _ _ _ _).2 ((howns.ensures_runNow hanswers query).weaken ?_)
    rintro (e | outcome) s₂ howns₂
    · exact howns₂
    · exact howns₂

theorem Owns.ensures_evaluate (query : Query) (h : Owns t s) :
    Ensures answers (evaluate query).run (fun _ => Owns t) s :=
  h.ensures_connected hanswers (fun _ howns _ => howns) fun _ howns _ _ =>
    howns.ensures_runNow hanswers query

/-- The connection may be reset from inside too. -/
theorem Owns.ensures_reset (h : Owns t s) : Ensures answers reset (fun _ => Owns t) s := by
  have hcalls : ∀ call (s : Connection × List Event), MadeFor s.1 call → Owns t s →
      ∀ reply s', answers call s reply s' → Owns t s' := by
    intro call s hcall h reply s' hreply
    have hfrom : FromHandle s.1 (.asked call) := hcall
    have hfits := hfrom.fits h.charge.within.session h.charge.within.driver
    have hanswered : OfHandle (.answered call reply) := hcall.byHandle
    exact h.steady (hanswers hreply) hcall.byHandle.steady hfits hanswered.attempt?_eq
  unfold reset
  rw [ensures_bind]
  refine (ensures_interrupt hcalls h.requestDiscard).weaken fun _ s h => ?_
  rw [ensures_bind]
  refine (ensures_clearInterrupt hcalls h).weaken fun _ s h => ?_
  exact h.settled

/-! ## Whole operations -/

theorem Owns.ensures_operation (op : Operation) (h : Owns t s) :
    Ensures answers op.program (fun _ s' => ∃ t', Owns t' s' ∧ t'.interactive = t.interactive) s := by
  have hsame : ∀ s', Owns t s' → ∃ t', Owns t' s' ∧ t'.interactive = t.interactive :=
    fun _ h => ⟨t, h, rfl⟩
  cases op with
  | connect endpoint =>
    refine (h.ensures_connect hanswers endpoint).weaken ?_
    rintro r s' ⟨t', howns, hinteractive, -, -⟩
    exact ⟨t', howns, hinteractive⟩
  | disconnect => exact (h.ensures_disconnect hanswers).weaken fun _ s' h => ⟨_, h, rfl⟩
  | switchDatabase name =>
    refine (h.ensures_switchDatabase hanswers name).weaken ?_
    rintro r s' ⟨active, howns, -, -⟩
    exact ⟨_, howns, rfl⟩
  | begin => exact (h.ensures_begin hanswers).weaken fun _ s' h => hsame s' h.1
  | commit => exact (h.ensures_commit hanswers).weaken fun _ s' h => hsame s' h.1
  | rollback => exact (h.ensures_rollback hanswers).weaken fun _ s' h => hsame s' h.1
  | runStatement query => exact (h.ensures_runStatement hanswers query).weaken fun _ => hsame
  | evaluate query => exact (h.ensures_evaluate hanswers query).weaken fun _ => hsame
  | reset => exact (h.ensures_reset hanswers).weaken fun _ => hsame

omit hanswers in
/-- Between two operations a connection has all that is held. -/
theorem Visited.owns {interactive : Bool} {log : List Event} {c : Connection}
    (h : Visited depth interactive log c) :
    Owns ⟨c.link.driver?, c.active, interactive⟩ (c, log) := by
  -- the terms change from operation to operation; all but the mode can be read off the connection
  suffices hsome : ∃ t, Owns t (c, log) ∧ t.interactive = interactive by
    obtain ⟨t, howns, rfl⟩ := hsome
    have hterms : t = ⟨c.link.driver?, c.active, t.interactive⟩ :=
      howns.terms.symm.trans (by rw [← howns.terms]; rfl)
    exact hterms ▸ howns
  induction h with
  | new =>
    refine ⟨⟨none, "", interactive⟩, ⟨⟨⟨throughout_nil, rfl, nofun, nofun⟩, rfl⟩,
      fun _ => ⟨rfl, rfl, rfl, rfl⟩, nofun, nofun⟩, rfl⟩
  | @operation log events c c' op result _ hrun ih =>
    obtain ⟨t, howns, rfl⟩ := ih
    exact ensures_of_runs (howns.ensures_operation id op) hrun
  | @handle log events c c' _ huses ih =>
    obtain ⟨t, howns, rfl⟩ := ih
    have hdeeper : handleUses (depth + 1) c events c' := huses
    exact ⟨t, howns.attends (handleUses_attends hdeeper), rfl⟩

end QueryShell.Connection
