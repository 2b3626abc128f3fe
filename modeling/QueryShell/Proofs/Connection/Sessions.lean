import QueryShell.Proofs.Connection.Custody

/-
The life of sessions. Every session that a driver hands out is closed once, before the next one is
asked for; there is never more than one that is not closed, and that one is in the link between two
operations. A session that was closed is left alone, by operations and by the reset handle.

Sessions are listed as often as they are handed out and closed. Nothing is assumed of drivers, so one
and the same session may be handed out again.
-/
namespace QueryShell.Connection

open Program

/-! ## What the log tells -/

/-- The session that an event closes. -/
def closing? : Event → Option Driver.SessionRef
  | .asked (.driver (.closeSession session)) => some session
  | _ => none

/-- The session that an event uses, or resets. -/
def use? : Event → Option Driver.SessionRef
  | .asked (.driver (.run session _)) => some session
  | .asked (.driver (.write session _)) => some session
  | .asked (.driver (.resetSession session)) => some session
  | _ => none

/-- The session that an event hands out. -/
def handing? (e : Event) : Option Driver.SessionRef :=
  (opening? e).map (·.session)

/-- The sessions that were handed out, in their order. -/
def handedOut (log : List Event) : List Driver.SessionRef :=
  log.filterMap handing?

/-- The sessions that were closed, in their order. -/
def closedOff (log : List Event) : List Driver.SessionRef :=
  log.filterMap closing?

theorem handedOut_append (first second : List Event) :
    handedOut (first ++ second) = handedOut first ++ handedOut second :=
  List.filterMap_append

theorem closedOff_append (first second : List Event) :
    closedOff (first ++ second) = closedOff first ++ closedOff second :=
  List.filterMap_append

/-- The session before an event and the one it hands out are the one it closes and the one behind
it. -/
theorem Fits.balance {k : Holding} {e : Event} (h : Fits k e) :
    k.session?.toList ++ (handing? e).toList =
      (closing? e).toList ++ (k.after e).session?.toList := by
  cases e with
  | interrupted => exact balance_idle rfl rfl rfl
  | asked call =>
    cases call with
    | driver call =>
      cases call with
      | closeSession session =>
        have hheld : k.session? = some session := h
        simp [hheld, handing?, opening?, closing?, Holding.after]
      | _ => exact balance_idle rfl rfl rfl
    | _ => exact balance_idle rfl rfl rfl
  | answered call reply =>
    cases call with
    | driver call =>
      cases call with
      | openSession driver config =>
        cases reply with
        | error e => exact balance_idle rfl rfl rfl
        | ok session =>
          have hheld : k.session? = none := h
          simp [hheld, handing?, opening?, closing?, Holding.after]
      | openDriver endpoint => cases reply <;> exact balance_idle rfl rfl rfl
      | _ => exact balance_idle rfl rfl rfl
    | _ => exact balance_idle rfl rfl rfl

/-- All sessions that were handed out are closed but for the one that is held. -/
theorem Orderly.balance {log : List Event} (h : Orderly log) :
    handedOut log = closedOff log ++ (held log).session?.toList :=
  held_balance Fits rfl (fun _ _ => Fits.balance) h

/-- A session that is used is held then. -/
theorem Fits.used {k : Holding} {e : Event} (h : Fits k e) {session : Driver.SessionRef}
    (huse : use? e = some session) : k.session? = some session := by
  unfold use? at huse
  split at huse
  · exact (Option.some.inj huse) ▸ h
  · exact (Option.some.inj huse) ▸ h
  · exact (Option.some.inj huse) ▸ h
  · cases huse

/-- Behind its closing a session is not held, unless it was handed out again. -/
theorem Orderly.handedOut_of_held {before events : List Event} {session : Driver.SessionRef}
    (h : Orderly (before ++ events)) (hbefore : handedOut before = closedOff before)
    (hheld : (held (before ++ events)).session? = some session) : session ∈ handedOut events := by
  have hbalance := h.balance
  rw [handedOut_append, closedOff_append, hbefore, hheld, List.append_assoc] at hbalance
  rw [List.append_cancel_left hbalance]
  simp

/-! ## The life cycle -/

/-- How sessions come and go, on a connection in state `c` behind `log`. -/
structure LifeCycle (depth : Nat) (log : List Event) (c : Connection) : Prop where
  /-- At any time there is at most one session that is not closed, the latest; all others were closed
  once. -/
  paired : ∀ before after, log = before ++ after →
    ∃ live? : Option Driver.SessionRef, handedOut before = closedOff before ++ live?.toList
  /-- When a session is asked for, all before it are closed. -/
  opening : ∀ before driver config after,
    log = before ++ .asked (.driver (.openSession driver config)) :: after →
      handedOut before = closedOff before
  /-- Behind its closing a session is neither used nor reset, unless it was handed out again. -/
  silent : ∀ before session between e after,
    log = before ++ .asked (.driver (.closeSession session)) :: (between ++ e :: after) →
      use? e = some session → session ∈ handedOut between
  /-- The one that is not closed is in the link. -/
  current : handedOut log = closedOff log ++ c.link.session?.toList
  disconnected : ∀ events c', Runs (handleUses depth) disconnect c events () c' →
    handedOut (log ++ events) = closedOff (log ++ events)
  failed : ∀ endpoint events e c',
    Runs (handleUses depth) (connect endpoint).run c events (.error e) c' →
      e ≠ .refused .alreadyConnected → handedOut (log ++ events) = closedOff (log ++ events)

/-- Without a driver nothing is left to close. -/
theorem Owns.settled_of_none {t : Terms} {s : Connection × List Event} (h : Owns t s)
    (hnone : t.driver? = none) : handedOut s.2 = closedOff s.2 := by
  rw [h.charge.orderly.balance, h.charge.held, (h.vacant hnone).session]
  exact List.append_nil _

/-- Sessions come and go in turns, whatever operations are asked for, whatever drivers answer and
whenever the reset handle is used. -/
theorem visited_lifeCycle {depth : Nat} {interactive : Bool} {log : List Event} {c : Connection}
    (h : Visited depth interactive log c) : LifeCycle depth log c := by
  have howns := h.owns
  have horderly := howns.charge.orderly
  refine ⟨?_, ?_, ?_, ?_, ?_, ?_⟩
  · rintro before after rfl
    exact ⟨_, horderly.before.balance⟩
  · rintro before driver config after rfl
    obtain ⟨-, hnone⟩ := horderly before _ after rfl
    rw [horderly.before.balance, hnone]
    exact List.append_nil _
  · rintro before session between e after rfl huse
    have hsplit : before ++ .asked (.driver (.closeSession session)) :: (between ++ e :: after) =
        (before ++ [.asked (.driver (.closeSession session))]) ++ between ++ e :: after := by simp
    rw [hsplit] at horderly
    have hused := (horderly _ e after rfl).used huse
    have hbetween := horderly.before
    refine hbetween.handedOut_of_held ?_ hused
    -- behind the closing nothing is held
    rw [hbetween.before.balance, held_snoc]
    exact List.append_nil _
  · rw [horderly.balance, howns.charge.held]
  · intro events c' hrun
    have hleft := ensures_of_runs (howns.toHas.ensures_disconnect id) hrun
    exact hleft.settled_of_none rfl
  · intro endpoint events e c' hrun hne
    obtain ⟨t', hleft, -, -, hfailed⟩ := ensures_of_runs (howns.ensures_connect id endpoint) hrun
    exact hleft.settled_of_none ((hfailed e rfl).resolve_left hne)

/-- A session for each of two databases, and none in the end. -/
def switchThenLeave : List Operation :=
  [.connect {}, .switchDatabase "films", .disconnect]

theorem lifeCycle_switchThenLeave :
    let run := replay Program.willing switchThenLeave { interactive := true }
    let log := run.1.flatMap Step.events
    Visited 0 true log run.2 ∧ handedOut log = [⟨0⟩, ⟨0⟩] ∧ closedOff log = [⟨0⟩, ⟨0⟩] ∧
      LifeCycle 0 log run.2 := by
  intro run log
  have hvisited : Visited 0 true ([] ++ log) run.2 :=
    visited_replay Program.willing switchThenLeave .new
  rw [List.nil_append] at hvisited
  exact ⟨hvisited, by decide +kernel, by decide +kernel, visited_lifeCycle hvisited⟩

end QueryShell.Connection
