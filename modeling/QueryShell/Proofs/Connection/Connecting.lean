import QueryShell.Proofs.Connection.Custody

/-
What a new connection starts with. A connection without a driver has nothing left of an earlier one,
so what is opened on it is new in all its parts (`connect_startsClean`). A driver that is still
installed when `connect` asks for another one is replaced, not closed, and with it all that belonged
to the connection before is taken over: its bookmark, and its open transaction
(`startsUnclean_sessionLost`). Whether that ever happened is told by the log (`Unreplaced`).
-/
namespace QueryShell.Connection

open Program

/-! ## Drivers -/

/-- The driver that an event brings. -/
def obtaining? : Event → Option Driver.Ref
  | .answered (.driver (.openDriver _)) (.ok driver) => some driver
  | _ => none

/-- The driver that an event closes. -/
def dropping? : Event → Option Driver.Ref
  | .asked (.driver (.closeDriver driver)) => some driver
  | _ => none

/-- The drivers that were opened, in their order. -/
def obtained (log : List Event) : List Driver.Ref :=
  log.filterMap obtaining?

/-- The drivers that were closed, in their order. -/
def dropped (log : List Event) : List Driver.Ref :=
  log.filterMap dropping?

/-- The event brings no driver while another one is held. -/
def Free (k : Holding) (e : Event) : Prop :=
  (obtaining? e).isSome = true → k.driver? = none

/-- No driver was ever opened while another one was held. -/
def Unreplaced (log : List Event) : Prop :=
  Throughout (fun before e => Free (held before) e) log

theorem Unreplaced.before {log events : List Event} (h : Unreplaced (log ++ events)) :
    Unreplaced log :=
  Throughout.before h

/-- The driver before an event and the one it brings are the one it closes and the one behind it. -/
theorem Fits.driver_balance {k : Holding} {e : Event} (h : Fits k e) (hfree : Free k e) :
    k.driver?.toList ++ (obtaining? e).toList =
      (dropping? e).toList ++ (k.after e).driver?.toList := by
  cases e with
  | interrupted => exact balance_idle rfl rfl rfl
  | asked call =>
    cases call with
    | driver call =>
      cases call with
      | closeDriver driver =>
        have hheld : k.driver? = some driver := h.1
        simp [hheld, obtaining?, dropping?, Holding.after]
      | _ => exact balance_idle rfl rfl rfl
    | _ => exact balance_idle rfl rfl rfl
  | answered call reply =>
    cases call with
    | driver call =>
      cases call with
      | openDriver endpoint =>
        cases reply with
        | error e => exact balance_idle rfl rfl rfl
        | ok driver =>
          have hheld : k.driver? = none := hfree rfl
          simp [hheld, obtaining?, dropping?, Holding.after]
      | openSession driver config => cases reply <;> exact balance_idle rfl rfl rfl
      | _ => exact balance_idle rfl rfl rfl
    | _ => exact balance_idle rfl rfl rfl

/-- All drivers that were opened are closed but for the one that is held. -/
theorem Unreplaced.balance {log : List Event} (h : Unreplaced log) (horderly : Orderly log) :
    obtained log = dropped log ++ (held log).driver?.toList := by
  have hboth : Throughout (fun before e => Fits (held before) e ∧ Free (held before) e) log :=
    fun before e after hlog => ⟨horderly before e after hlog, h before e after hlog⟩
  exact held_balance (fun k e => Fits k e ∧ Free k e) rfl
    (fun _ _ hallowed => hallowed.1.driver_balance hallowed.2) hboth

/-! ## A new connection -/

variable {depth : Nat} {t : Terms} {c c' : Connection} {log events : List Event}

/-- A connection that was opened found the driver held that was installed. -/
theorem Owns.driver_of_connect {endpoint : Endpoint} (h : Owns t (c, log))
    (hrun : Runs (handleUses depth) (connect endpoint).run c events (.ok ()) c')
    (hfree : Unreplaced (log ++ events)) : t.driver? = none := by
  obtain ⟨first, connected, d, second, hfirst, hrest, rfl⟩ :=
    Attempt.runs_lift_bind (runs_settle_bind hrun)
  obtain ⟨⟨howns, -⟩, -⟩ := ensures_of_runs (h.settled.ensures_isConnected id) hfirst
  cases connected with
  | true => cases (Attempt.runs_throw_bind hrest).2.1
  | false =>
    have hopen := Attempt.runs_modify_bind hrest
    obtain ⟨third, reply, d', fourth, hestablish, hend, rfl⟩ := Attempt.runs_lift_bind hopen
    cases reply with
    | error source =>
      obtain ⟨_, _, _, _, -, hthrow, -⟩ := Attempt.runs_lift_bind hend
      cases (Attempt.runs_throw hthrow).2.1
    | ok =>
      rcases Attempt.runs_bind hestablish with
        ⟨e, he, -⟩ | ⟨fifth, driver, d'', sixth, hdriver, -, rfl⟩
      · cases he
      obtain ⟨during, hduring, rfl⟩ := runs_driver hdriver
      have hasked := ((howns.setActive endpoint.database).charge.event
        (e := .asked (.driver (.openDriver endpoint))) trivial howns.charge.within).attends
          (handleUses_attends hduring)
      have hheld := congrArg Holding.driver? hasked.held
      -- the handle may have been used since, but what is held is what was before
      have hnone := hfree (log ++ first ++ [.asked (.driver (.openDriver endpoint))] ++ during)
        (.answered (.driver (.openDriver endpoint)) (.ok driver)) (sixth ++ fourth) (by simp) rfl
      exact hheld.symm.trans hnone

/-! ## What a connection starts with -/

/-- A connection was opened behind `log`, and is in state `c` behind `events`: it owes nothing to
those before it. -/
structure StartsClean (log events : List Event) (c : Connection) : Prop where
  /-- No transaction is open, and nothing is queued that could be committed. -/
  transaction : c.transactionOpen = false ∧ c.pending? = none
  /-- The session was opened by the driver, without a bookmark. -/
  session : ∃ o, latest? (log ++ events) = some o ∧ c.link.session? = some o.session ∧
    c.link.driver? = some o.driver ∧ o.config.bookmark = none
  /-- All drivers before it were closed once. -/
  drivers : obtained log = dropped log

/-- A connection starts clean if no driver was ever opened over another one, whatever else became of
the connections before. -/
theorem connect_startsClean {interactive : Bool} {endpoint : Endpoint}
    (h : Visited depth interactive log c)
    (hrun : Runs (handleUses depth) (connect endpoint).run c events (.ok ()) c')
    (hfree : Unreplaced (log ++ events)) : StartsClean log events c' := by
  have howns := h.owns
  have hnone : c.link.driver? = none := howns.driver_of_connect hrun hfree
  have hsettled := howns.settled.vacant hnone
  have hpending : c'.pending? = none := by
    have heffect := effect_connect (fun _ _ _ _ => handleUses_keeps) hrun
    cases heffect with
    | keeps _ _ _ hkeeps => exact hkeeps.pending.trans hsettled.pending
    | opens hopens => cases hopens
    | queues query _ hqueued => cases hqueued
    | closes _ hpending => exact hpending
  refine ⟨⟨?_, hpending⟩, ?_, ?_⟩
  · unfold transactionOpen
    rw [hpending]
    rfl
  · obtain ⟨t', howns', -, hok, -⟩ := ensures_of_runs (howns.ensures_connect id endpoint) hrun
    obtain ⟨hsession, hbookmark⟩ := hok rfl
    obtain ⟨session, hsome⟩ := Option.isSome_iff_exists.1 hsession
    have hconnect : Runs (handleUses depth) (Operation.connect endpoint).program c events (.ok ())
      c' := hrun
    have hvisited : Visited depth interactive (log ++ events) c' := .operation h hconnect
    obtain ⟨o, hlatest, rfl, hdriver, -⟩ := hvisited.rests.serves session hsome
    exact ⟨o, hlatest, hsome, hdriver, (howns'.bookmark hsession o hlatest).trans (hbookmark hnone)⟩
  · rw [hfree.before.balance howns.charge.orderly, howns.charge.held, hnone]
    exact List.append_nil _

instance (k : Holding) (e : Event) : Decidable (Free k e) :=
  inferInstanceAs (Decidable (_ → _))

/-- A driver whose session closes itself behind one of the queries; the world says whether it did. -/
def closingItself : (call : Call) → Connection × Bool → List Event × call.Reply × (Connection × Bool)
  | .driver (.isOpen _), (c, gone) => ([], !gone, (c, gone))
  | .driver (.lastBookmark _), cw => ([], some ["b1"], cw)
  | .driver (.run _ query), (c, gone) => ([], .ok {}, (c, gone || query.text = "RETURN 2"))
  | .driver (.openSession _ _), (c, _) => ([], .ok ⟨0⟩, (c, false))
  | call, cw => ([], Program.willing call, cw)

theorem closingItself_quiet (call : Call) (cw : Connection × Bool) :
    handleUses 0 cw.1 (closingItself call cw).1 (closingItself call cw).2.2.1 := by
  unfold closingItself
  split <;> exact ⟨rfl, rfl⟩

/-- A transaction that is still open when the connection is left. -/
def leaveInside : List Operation :=
  [.connect {}, .begin, .runStatement { text := "CREATE (:A);" }, .disconnect]

theorem startsClean_leaveInside :
    let before := rehearse closingItself leaveInside ({ interactive := true }, false)
    let again := (connect {}).run.rehearse closingItself before.2
    Visited 0 true before.1 before.2.1 ∧
      Runs (handleUses 0) (connect {}).run before.2.1 again.1 (.ok ()) again.2.2.1 ∧
      Unreplaced (before.1 ++ again.1) ∧ StartsClean before.1 again.1 again.2.2.1 := by
  intro before again
  have hvisited : Visited 0 true ([] ++ before.1) before.2.1 :=
    visited_rehearse closingItself_quiet leaveInside false .new
  rw [List.nil_append] at hvisited
  have hok : again.2.1 = .ok () := by decide +kernel
  have hrun : Runs (handleUses 0) (connect {}).run before.2.1 again.1 (.ok ()) again.2.2.1 :=
    runs_of_rehearse closingItself_quiet rfl hok
  have hfree : Unreplaced ([] ++ (before.1 ++ again.1)) :=
    throughout_of_allowedFrom throughout_nil (by decide +kernel)
  rw [List.nil_append] at hfree
  exact ⟨hvisited, hrun, hfree, connect_startsClean hvisited hrun hfree⟩

/-- A transaction whose session closes itself. -/
def sessionLost : List Operation :=
  [.connect {}, .begin, .runStatement { text := "CREATE (:A);" }, .evaluate { text := "RETURN 2" }]

/-- The next connection takes over the transaction and the bookmark, and the driver is not closed. -/
theorem startsUnclean_sessionLost :
    let before := rehearse closingItself sessionLost ({ interactive := true }, false)
    let look := isConnected.rehearse closingItself before.2
    let again := (connect {}).run.rehearse closingItself before.2
    Visited 0 true before.1 before.2.1 ∧
      Runs (handleUses 0) isConnected before.2.1 look.1 false look.2.2.1 ∧
      Runs (handleUses 0) (connect {}).run before.2.1 again.1 (.ok ()) again.2.2.1 ∧
      again.2.2.1.transactionOpen = true ∧
      (latest? (before.1 ++ again.1)).map (·.config.bookmark) = some (some ["b1"]) ∧
      obtained before.1 = [⟨0⟩] ∧ dropped before.1 = [] ∧
      ¬ StartsClean before.1 again.1 again.2.2.1 := by
  intro before look again
  have hvisited : Visited 0 true ([] ++ before.1) before.2.1 :=
    visited_rehearse closingItself_quiet sessionLost false .new
  rw [List.nil_append] at hvisited
  have hclosed : look.2.1 = false := by decide +kernel
  have hlook : Runs (handleUses 0) isConnected before.2.1 look.1 false look.2.2.1 :=
    runs_of_rehearse closingItself_quiet rfl hclosed
  have hok : again.2.1 = .ok () := by decide +kernel
  have hrun : Runs (handleUses 0) (connect {}).run before.2.1 again.1 (.ok ()) again.2.2.1 :=
    runs_of_rehearse closingItself_quiet rfl hok
  have hopen : again.2.2.1.transactionOpen = true := by decide +kernel
  refine ⟨hvisited, hlook, hrun, hopen, by decide +kernel, by decide +kernel, by decide +kernel, ?_⟩
  intro hclean
  rw [hclean.transaction.1] at hopen
  cases hopen

end QueryShell.Connection
