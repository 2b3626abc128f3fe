import QueryShell.Proofs.Connection.Turns

/-
How often a query is sent. A query that a server has run may have changed its data, so sending it twice
has to be safe: only a server that answers that the session has expired has not run it. `Sending` lists
all ways in which a query can be sent, turn by turn; there are two of them with a second sending, and
whatever is answered then is the answer.
-/
namespace QueryShell.Connection

open Program

/-! ## The ways of a query -/

/-- The server says that the session has expired, so that it has not run the query. -/
def Expired {α : Type} : Except Driver.Error α → Prop
  | .error (.sessionExpired _) => True
  | _ => False

/-- The ways in which a query is sent from a connection, with what comes of it. -/
inductive Sending (c : Connection) (query : Query) : List Turn → Except Failure Outcome → Prop where
  /-- There is no open session. -/
  | unsent : Sending c query (looks c.link.session? false) (.error (.refused .notConnected))
  /-- Whatever is answered is what comes of the query, be it another error. -/
  | once {session : Driver.SessionRef} {reply : Except Driver.Error Outcome} :
      c.link.session? = some session → ¬ Expired reply →
      Sending c query [⟨.isOpen session, true⟩, ⟨.run session query, reply⟩]
        (reply.mapError .ofDriver)
  /-- The session has expired and cannot be replaced. -/
  | unrenewed {session : Driver.SessionRef} {driver : Driver.Ref} {m : String} {ts : List Turn}
      {e : Driver.Error} :
      c.link.session? = some session → c.link.driver? = some driver →
      Replacement driver c ts (.error e) →
      Sending c query
        (⟨.isOpen session, true⟩ :: ⟨.run session query, .error (.sessionExpired m)⟩ :: ts)
        (.error (.ofDriver e))
  /-- The session was replaced by one that is not open. -/
  | lost {session renewed : Driver.SessionRef} {driver : Driver.Ref} {m : String} {ts : List Turn} :
      c.link.session? = some session → c.link.driver? = some driver →
      Replacement driver c ts (.ok renewed) →
      Sending c query
        (⟨.isOpen session, true⟩ :: ⟨.run session query, .error (.sessionExpired m)⟩ :: ts ++
          [⟨.isOpen renewed, false⟩])
        (.error (.refused .notConnected))
  /-- The query is sent again, and not once more whatever is answered. -/
  | twice {session renewed : Driver.SessionRef} {driver : Driver.Ref} {m : String} {ts : List Turn}
      {reply : Except Driver.Error Outcome} :
      c.link.session? = some session → c.link.driver? = some driver →
      Replacement driver c ts (.ok renewed) →
      Sending c query
        (⟨.isOpen session, true⟩ :: ⟨.run session query, .error (.sessionExpired m)⟩ :: ts ++
          [⟨.isOpen renewed, true⟩, ⟨.run renewed query, reply⟩])
        (reply.mapError .ofDriver)

variable {depth : Nat} {c c' d : Connection} {log events : List Event} {query : Query}
  {s s' : Connection × List Event}

theorem ensures_requireSession_turns (s : Connection × List Event) :
    Ensures (asks (handleUses depth)) requireSession.run (fun r s' => Spares s.1 s'.1 ∧
      ((r = .error (.refused .notConnected) ∧ turns s'.2 = turns s.2 ++ looks s.1.link.session? false) ∨
        ∃ session, s.1.link.session? = some session ∧ r = .ok session ∧
          turns s'.2 = turns s.2 ++ [⟨.isOpen session, true⟩])) s := by
  unfold requireSession openSession?
  rw [Attempt.ensures_lift_bind, ensures_bind, ensures_get]
  cases hsession : s.1.link.session? with
  | none => exact ⟨.refl s.1, .inl ⟨rfl, (List.append_nil _).symm⟩⟩
  | some session =>
    dsimp only
    rw [ensures_bind]
    refine (ensures_call (.driver (.isOpen session)) _ s).2 fun isOpen s₁ hasks => ?_
    have hturns := asks_turn rfl hasks
    cases isOpen with
    | false => exact ⟨asks_spares hasks, .inl ⟨rfl, hturns⟩⟩
    | true => exact ⟨asks_spares hasks, .inr ⟨session, rfl, rfl, hturns⟩⟩

/-- A query takes the same ways from both connections. -/
structure Alike (c d : Connection) : Prop where
  driver : d.link.driver? = c.link.driver?
  session : d.link.session? = c.link.session?
  active : d.active = c.active
  bookmark : d.bookmark? = c.bookmark?

theorem Spares.alike (h : Spares c d) : Alike c d :=
  ⟨h.driver, h.session, h.active, h.bookmark⟩

theorem alike_applyDiscard (c : Connection) : Alike c c.applyDiscard := by
  unfold applyDiscard
  split <;> exact ⟨rfl, rfl, rfl, rfl⟩

theorem Alike.trans {c d c' : Connection} (h₁ : Alike c d) (h₂ : Alike d c') : Alike c c' :=
  ⟨h₂.driver.trans h₁.driver, h₂.session.trans h₁.session, h₂.active.trans h₁.active,
    h₂.bookmark.trans h₁.bookmark⟩

theorem Alike.replacement {driver : Driver.Ref} {ts : List Turn}
    {r : Except Driver.Error Driver.SessionRef} (h : Alike c d) (hd : Replacement driver d ts r) :
    Replacement driver c ts r := by
  cases hd with
  | first hsession hrenewal =>
    rw [h.session] at hsession
    rw [h.active, h.bookmark] at hrenewal
    exact .first hsession hrenewal
  | next latest? closed hsession hrenewal =>
    rw [h.session] at hsession
    rw [h.active, h.bookmark] at hrenewal
    exact .next latest? closed hsession hrenewal

theorem Alike.sending {ts : List Turn} {r : Except Failure Outcome} (h : Alike c d)
    (hd : Sending d query ts r) : Sending c query ts r := by
  cases hd with
  | unsent =>
    rw [h.session]
    exact .unsent
  | once hsession hreply => exact .once (h.session ▸ hsession) hreply
  | unrenewed hsession hdriver hreplacement =>
    exact .unrenewed (h.session ▸ hsession) (h.driver ▸ hdriver) (h.replacement hreplacement)
  | lost hsession hdriver hreplacement =>
    exact .lost (h.session ▸ hsession) (h.driver ▸ hdriver) (h.replacement hreplacement)
  | twice hsession hdriver hreplacement =>
    exact .twice (h.session ▸ hsession) (h.driver ▸ hdriver) (h.replacement hreplacement)

/-- The turns in which a query is sent. -/
theorem ensures_runNow_turns (query : Query)
    (hinstalled : s.1.link.session?.isSome = true → s.1.link.driver?.isSome = true) :
    Ensures (asks (handleUses depth)) (runNow query).run (fun r s' => ∃ ts,
      turns s'.2 = turns s.2 ++ ts ∧ Sending s.1 query ts r) s := by
  unfold runNow
  rw [Attempt.ensures_bind]
  refine (ensures_requireSession_turns s).weaken ?_
  rintro r s₁ ⟨hspares, ⟨rfl, hturns⟩ | ⟨session, hsession, rfl, hturns⟩⟩
  · exact ⟨_, hturns, .unsent⟩
  refine (Attempt.ensures_lift_bind _ _ _ _).2 ?_
  refine (ensures_call (.driver (.run session query)) _ s₁).2 fun reply s₂ hasks₂ => ?_
  have hspares₂ := hspares.trans (asks_spares hasks₂)
  have hturns₂ := (asks_turn rfl hasks₂).trans (congrArg (· ++ _) hturns)
  have honce (hreply : ¬ Expired reply) : ∃ ts, turns s₂.2 = turns s.2 ++ ts ∧
      Sending s.1 query ts (reply.mapError .ofDriver) :=
    ⟨_, by simpa using hturns₂, .once hsession hreply⟩
  rcases reply with e | outcome
  · cases e with
    | sessionExpired m =>
      obtain ⟨driver, hdriver⟩ := Option.isSome_iff_exists.1 (hinstalled (by rw [hsession]; rfl))
      refine (Attempt.ensures_bind _ _ _ _).2 ((Attempt.ensures_mapError _ _ _ _).2 ?_)
      refine (ensures_reconnect_turns (hspares₂.driver.trans hdriver)).weaken ?_
      rintro r s₃ ⟨ts, renewed, hturns₃, hreplacement, rfl, hreplaced⟩
      have hreplacement := hspares₂.alike.replacement hreplacement
      have hturns₃ := hturns₃.trans (congrArg (· ++ _) hturns₂)
      rcases renewed with e | renewed
      · exact ⟨_, by simpa using hturns₃, .unrenewed hsession hdriver hreplacement⟩
      refine (Attempt.ensures_bind _ _ _ _).2 ((ensures_requireSession_turns s₃).weaken ?_)
      have hthere := hreplaced.session renewed rfl
      rintro r s₄ ⟨-, ⟨rfl, hturns₄⟩ | ⟨session', hsession', rfl, hturns₄⟩⟩
      · rw [hthere, looks_some] at hturns₄
        have hturns₄ := hturns₄.trans (congrArg (· ++ _) hturns₃)
        exact ⟨_, by simpa using hturns₄, .lost hsession hdriver hreplacement⟩
      obtain rfl : renewed = session' := Option.some.inj (hthere.symm.trans hsession')
      refine (Attempt.ensures_bind _ _ _ _).2 ((Attempt.ensures_mapError _ _ _ _).2 ?_)
      refine (ensures_call (.driver (.run renewed query)) _ s₄).2 fun reply s₅ hasks₅ => ?_
      have hturns₅ := (asks_turn rfl hasks₅).trans
        (congrArg (· ++ _) (hturns₄.trans (congrArg (· ++ _) hturns₃)))
      have htwice : Sending s.1 query
          (⟨.isOpen session, true⟩ :: ⟨.run session query, .error (.sessionExpired m)⟩ :: ts ++
            [⟨.isOpen renewed, true⟩, ⟨.run renewed query, reply⟩]) (reply.mapError .ofDriver) :=
        .twice hsession hdriver hreplacement
      rcases reply with e | outcome
      · exact ⟨_, by simpa using hturns₅, htwice⟩
      · exact ⟨_, by simpa using hturns₅, htwice⟩
    | _ => exact honce id
  · exact honce id

/-! ## Whole operations -/

/-- The ways of an operation that sends a query at once: it looks for an open session first. -/
inductive Retrying (c : Connection) (query : Query) : List Turn → Except Failure Outcome → Prop where
  | refused : Retrying c query (looks c.link.session? false) (.error (.refused .notConnected))
  | sending {session : Driver.SessionRef} {ts : List Turn} {r : Except Failure Outcome} :
      c.link.session? = some session → Sending c query ts r →
      Retrying c query (⟨.isOpen session, true⟩ :: ts) r

/-- Behind the look at the session, the query goes its way. -/
theorem Looks.retrying {first second : List Event} {r : Except Failure Outcome}
    (h : Looks depth c.applyDiscard first true d)
    (hinstalled : c.link.session?.isSome = true → c.link.driver?.isSome = true)
    (hrun : Runs (handleUses depth) (runNow query).run d second r c') :
    Retrying c query (turns (first ++ second)) r := by
  obtain ⟨during, hattends⟩ := h.attends
  have halike := (alike_applyDiscard c).trans hattends.spares.alike
  obtain ⟨session, hsession⟩ := Option.isSome_iff_exists.1 h.session?_isSome
  have hsession' : c.link.session? = some session := halike.session ▸ hsession
  obtain ⟨ts, hts, hsending⟩ := ensures_of_runs_alone (ensures_runNow_turns query
    (by rw [halike.session, halike.driver]; exact hinstalled)) hrun
  rw [turns_nil, List.nil_append] at hts
  rw [turns_append, h.turns_eq, applyDiscard_session?, hsession', looks_some, hts]
  exact .sending hsession' (halike.sending hsending)

/-- What the session was before it was looked at does not matter, if it is not open. -/
theorem Looks.refused (h : Looks depth c.applyDiscard events false d) :
    Retrying c query (turns events) (.error (.refused .notConnected)) := by
  rw [h.turns_eq, applyDiscard_session?]
  exact .refused

theorem runs_evaluate {r : Except Failure Outcome}
    (hinstalled : c.link.session?.isSome = true → c.link.driver?.isSome = true)
    (hrun : Runs (handleUses depth) (evaluate query).run c events r c') :
    Retrying c query (turns events) r := by
  rcases runs_looks hrun with ⟨hlooks, rfl⟩ | ⟨first, d, second, hlooks, hrest, rfl⟩
  · exact hlooks.refused
  · exact hlooks.retrying hinstalled hrest

/-- In an open transaction a query is queued, unless it is refused; otherwise it is sent at once. -/
theorem runs_runStatement {r : Except Failure (Option Outcome)}
    (hinstalled : c.link.session?.isSome = true → c.link.driver?.isSome = true)
    (hrun : Runs (handleUses depth) (runStatement query).run c events r c') :
    (c.transactionOpen = true ∧ r = .ok none ∧ turns events = looks c.link.session? true) ∨
      ∃ sent : Except Failure Outcome, r = sent.map some ∧ Retrying c query (turns events) sent := by
  rcases runs_looks hrun with ⟨hlooks, rfl⟩ | ⟨first, d, second, hlooks, hrest, rfl⟩
  · exact .inr ⟨_, rfl, hlooks.refused⟩
  have hrest := Attempt.runs_get_bind hrest
  split at hrest
  · rename_i hpending
    have hend := Attempt.runs_modify_bind hrest
    obtain ⟨rfl, rfl, -⟩ := Attempt.runs_pure hend
    refine .inl ⟨hlooks.pending?_isSome.symm.trans hpending, rfl, ?_⟩
    rw [List.append_nil, hlooks.turns_eq, applyDiscard_session?]
  rcases Attempt.runs_bind hrest with ⟨e, rfl, hfail⟩ | ⟨third, outcome, d', fourth, hok, hend, rfl⟩
  · exact .inr ⟨.error e, rfl, hlooks.retrying hinstalled hfail⟩
  · obtain ⟨rfl, rfl, rfl⟩ := Attempt.runs_pure hend
    rw [List.append_nil]
    exact .inr ⟨.ok outcome, rfl, hlooks.retrying hinstalled hok⟩

end QueryShell.Connection
