import Mathlib.Data.List.Induction
import QueryShell.Proofs.Connection.Representation
import QueryShell.Proofs.Program.Logs

/-
What a connection holds. Drivers and sessions are handed out, and whoever got them has to close them.
The log tells what is held at any time (`held`). Whatever an operation or the reset handle asks fits
that: what is held is all that is used, and a session is opened only while there is none. Between two
operations the link has exactly what is held (`Owns`), wherever the operation before it failed.
-/
namespace QueryShell.Connection

open Program

/-! ## What the log tells -/

/-- What was handed out and is not closed yet. -/
structure Holding where
  driver? : Option Driver.Ref := none
  session? : Option Driver.SessionRef := none
deriving DecidableEq

/-- What is held behind an event. Whatever a closing answers, nothing is left to close behind it. -/
def Holding.after (k : Holding) : Event → Holding
  | .answered (.driver (.openDriver _)) (.ok driver) => { k with driver? := some driver }
  | .answered (.driver (.openSession _ _)) (.ok session) => { k with session? := some session }
  | .asked (.driver (.closeSession _)) => { k with session? := none }
  | .asked (.driver (.closeDriver _)) => { k with driver? := none }
  | _ => k

/-- What is held behind a log. -/
def held (log : List Event) : Holding :=
  log.foldl Holding.after {}

/-- The event asks nothing of what is not held, and opens no session beside another. -/
def Fits (k : Holding) : Event → Prop
  | .asked (.driver (.verify driver)) => k.driver? = some driver
  | .asked (.driver (.openSession driver _)) => k.driver? = some driver ∧ k.session? = none
  | .answered (.driver (.openSession _ _)) (.ok _) => k.session? = none
  | .asked (.driver (.run session _)) => k.session? = some session
  | .asked (.driver (.write session _)) => k.session? = some session
  | .asked (.driver (.resetSession session)) => k.session? = some session
  | .asked (.driver (.closeSession session)) => k.session? = some session
  | .asked (.driver (.isOpen session)) => k.session? = some session
  | .asked (.driver (.lastBookmark session)) => k.session? = some session
  | .asked (.driver (.closeDriver driver)) => k.driver? = some driver ∧ k.session? = none
  | .asked (.driver (.interrupt driver)) => k.driver? = some driver
  | .asked (.driver (.clearInterrupt driver)) => k.driver? = some driver
  | _ => True

/-- Each event fits what is held then. -/
def Orderly (log : List Event) : Prop :=
  Throughout (fun before e => Fits (held before) e) log

/-- How an event ends an attempt to get a new session: with one, or without. -/
def attempt? : Event → Option Bool
  | .answered (.driver (.verify _)) (.error _) => some false
  | .answered (.driver (.openSession _ _)) (.error _) => some false
  | .answered (.driver (.openSession _ _)) (.ok _) => some true
  | _ => none

/-- How the latest attempt to get a new session ended. -/
def lastAttempt? (log : List Event) : Option Bool :=
  (log.filterMap attempt?).getLast?

theorem Orderly.before {log events : List Event} (h : Orderly (log ++ events)) : Orderly log :=
  Throughout.before h

theorem held_snoc (log : List Event) (e : Event) : held (log ++ [e]) = (held log).after e := by
  simp [held]

/-- What nothing was given of and nothing was taken back of is as it was. -/
theorem balance_idle {α : Type} {given back part part' : Option α} (hgiven : given = none)
    (hback : back = none) (hpart : part' = part) :
    part.toList ++ given.toList = back.toList ++ part'.toList := by
  simp [hgiven, hback, hpart]

/-- What was given is what was taken back and what is held of it, if each event keeps to that. -/
theorem held_balance {α : Type} {given back : Event → Option α} {part : Holding → Option α}
    (allowed : Holding → Event → Prop) (hstart : part {} = none)
    (hstep : ∀ k e, allowed k e → (part k).toList ++ (given e).toList =
      (back e).toList ++ (part (k.after e)).toList) {log : List Event}
    (h : Throughout (fun before e => allowed (held before) e) log) :
    log.filterMap given = log.filterMap back ++ (part (held log)).toList := by
  have hone : ∀ (f : Event → Option α) (e : Event), [e].filterMap f = (f e).toList := by
    intro f e
    cases hf : f e <;> simp [hf]
  -- by induction from the end of the log, as what is held there is a step behind what was held before
  induction log using List.reverseRecOn with
  | nil => simp [held, hstart]
  | append_singleton log e ih =>
    obtain ⟨hlog, hallowed⟩ := throughout_snoc.1 h
    calc (log ++ [e]).filterMap given
        = log.filterMap back ++ ((part (held log)).toList ++ (given e).toList) := by
          rw [List.filterMap_append, ih hlog, hone, List.append_assoc]
      _ = log.filterMap back ++ ((back e).toList ++ (part ((held log).after e)).toList) := by
          rw [hstep (held log) e hallowed]
      _ = (log ++ [e]).filterMap back ++ (part (held (log ++ [e]))).toList := by
          rw [List.filterMap_append, hone, held_snoc, List.append_assoc]

theorem lastAttempt?_or (log events : List Event) :
    lastAttempt? (log ++ events) = (lastAttempt? events).or (lastAttempt? log) := by
  unfold lastAttempt?
  rw [List.filterMap_append, List.getLast?_append]

theorem lastAttempt?_append {log events : List Event} (h : ∀ e ∈ events, attempt? e = none) :
    lastAttempt? (log ++ events) = lastAttempt? log := by
  have hnone : lastAttempt? events = none := by
    unfold lastAttempt?
    rw [List.filterMap_eq_nil_iff.2 h]
    rfl
  rw [lastAttempt?_or, hnone, Option.none_or]

theorem lastAttempt?_snoc {log : List Event} {e : Event} {got : Bool} (h : attempt? e = some got) :
    lastAttempt? (log ++ [e]) = some got := by
  have hone : lastAttempt? [e] = some got := by
    unfold lastAttempt?
    rw [List.filterMap_cons_some h]
    rfl
  rw [lastAttempt?_or, hone, Option.some_or]

theorem OfHandle.attempt?_eq {e : Event} (h : OfHandle e) : attempt? e = none := by
  unfold attempt?
  split
  · cases h
  · cases h
  · cases h
  · rfl

theorem FromHandle.ofHandle {c : Connection} {e : Event} (h : FromHandle c e) : OfHandle e := by
  cases e with
  | asked call => exact MadeFor.byHandle h
  | answered call reply => exact h
  | interrupted => trivial

/-- What the handle asks is in the link, so it fits if the link has only what is held. -/
theorem FromHandle.fits {c : Connection} {e : Event} (h : FromHandle c e) {k : Holding}
    (hsession : ∀ session, c.link.session? = some session → k.session? = some session)
    (hdriver : ∀ driver, c.link.driver? = some driver → k.driver? = some driver) : Fits k e := by
  cases e with
  | interrupted => trivial
  | answered call reply =>
    have hcall : ByHandle call := h
    unfold ByHandle at hcall
    split at hcall
    · trivial
    · trivial
    · trivial
    · trivial
    · cases hcall
  | asked call =>
    have hcall : MadeFor c call := h
    unfold MadeFor at hcall
    split at hcall
    · exact hsession _ hcall
    · exact hdriver _ hcall
    · exact hdriver _ hcall
    · trivial
    · cases hcall

/-- The call neither opens nor closes anything. -/
def Steady : Call → Prop
  | .driver (.openDriver _) => False
  | .driver (.openSession _ _) => False
  | .driver (.closeSession _) => False
  | .driver (.closeDriver _) => False
  | _ => True

theorem Steady.asked {call : Call} (h : Steady call) (k : Holding) : k.after (.asked call) = k := by
  cases call with
  | driver call => cases call <;> first | rfl | cases h
  | _ => rfl

theorem Steady.answered {call : Call} (h : Steady call) (k : Holding) (reply : call.Reply) :
    k.after (.answered call reply) = k := by
  cases call with
  | driver call => cases call <;> first | rfl | cases h
  | _ => rfl

theorem Steady.fits {call : Call} (h : Steady call) (k : Holding) (reply : call.Reply) :
    Fits k (.answered call reply) := by
  cases call with
  | driver call => cases call <;> trivial
  | _ => trivial

theorem Steady.opening?_eq {call : Call} (h : Steady call) (reply : call.Reply) :
    opening? (.answered call reply) = none := by
  cases call with
  | driver call => cases call <;> first | rfl | cases h
  | _ => rfl

theorem ByHandle.steady {call : Call} (h : ByHandle call) : Steady call := by
  unfold ByHandle at h
  split at h
  · trivial
  · trivial
  · trivial
  · trivial
  · cases h

theorem OfHandle.after_eq {e : Event} (h : OfHandle e) (k : Holding) : k.after e = k := by
  cases e with
  | asked call => exact (ByHandle.steady h).asked k
  | answered call reply => exact (ByHandle.steady h).answered k reply
  | interrupted => rfl

variable {depth : Nat} {s s' : Connection × List Event}

/-- What a call and the uses of the handle meanwhile leave of connection and log. -/
theorem asks_attends {call : Call} {reply : call.Reply}
    (h : asks (handleUses depth) call s reply s') :
    ∃ during, Attends s.1 during s'.1 ∧
      s'.2 = s.2 ++ [.asked call] ++ during ++ [.answered call reply] := by
  obtain ⟨during, hduring, hlog⟩ := h
  exact ⟨during, handleUses_attends hduring, by simp [hlog]⟩

/-- What a call leaves as it is. -/
structure Spares (c c' : Connection) : Prop where
  interactive : c'.interactive = c.interactive
  pending : c'.pending? = c.pending?
  transactionOpen : c'.link.transactionOpen = c.link.transactionOpen
  driver : c'.link.driver? = c.link.driver?
  session : c'.link.session? = c.link.session?
  bookmark : c'.bookmark? = c.bookmark?
  active : c'.active = c.active

theorem Attends.spares {c c' : Connection} {events : List Event} (h : Attends c events c') :
    Spares c c' := by
  rw [h.rest]
  exact ⟨rfl, rfl, rfl, rfl, rfl, rfl, rfl⟩

theorem asks_spares {call : Call} {reply : call.Reply}
    (h : asks (handleUses depth) call s reply s') : Spares s.1 s'.1 := by
  obtain ⟨during, hduring, -⟩ := asks_attends h
  exact hduring.spares

theorem asks_latest? {call : Call} {reply : call.Reply}
    (h : asks (handleUses depth) call s reply s')
    (hopening : opening? (.answered call reply) = none) : latest? s'.2 = latest? s.2 := by
  obtain ⟨during, hduring, hlog⟩ := asks_attends h
  rw [hlog, latest?_append (List.forall_mem_singleton.2 hopening),
    latest?_append fun e he => (hduring.fromHandle e he).ofHandle.opening?_eq,
    latest?_append (List.forall_mem_singleton.2 rfl)]

/-- A reply that ends an attempt is the latest that does. -/
theorem asks_attempted {call : Call} {reply : call.Reply} {got : Bool}
    (h : asks (handleUses depth) call s reply s')
    (hattempt : attempt? (.answered call reply) = some got) : lastAttempt? s'.2 = some got := by
  obtain ⟨during, -, hlog⟩ := asks_attends h
  rw [hlog]
  exact lastAttempt?_snoc hattempt

theorem asks_lastAttempt? {call : Call} {reply : call.Reply}
    (h : asks (handleUses depth) call s reply s')
    (hattempt : attempt? (.answered call reply) = none) :
    lastAttempt? s'.2 = lastAttempt? s.2 := by
  obtain ⟨during, hduring, hlog⟩ := asks_attends h
  rw [hlog, lastAttempt?_append (List.forall_mem_singleton.2 hattempt),
    lastAttempt?_append fun e he => (hduring.fromHandle e he).ofHandle.attempt?_eq,
    lastAttempt?_append (List.forall_mem_singleton.2 rfl)]

/-! ## Invariants -/

/-- The link has no more than what is held. -/
structure Within (l : Link) (k : Holding) : Prop where
  driver : ∀ driver, l.driver? = some driver → k.driver? = some driver
  session : ∀ session, l.session? = some session → k.session? = some session

/-- The connection answers for what is held; not all of it need be in the link. -/
structure InCharge (k : Holding) (s : Connection × List Event) : Prop where
  orderly : Orderly s.2
  held : held s.2 = k
  within : Within s.1.link k

/-- What the calls of an operation leave as it is. -/
structure Terms where
  driver? : Option Driver.Ref
  active : String
  interactive : Bool

/-- The terms that a connection is on. -/
def terms (c : Connection) : Terms :=
  ⟨c.link.driver?, c.active, c.interactive⟩

/-- The link has all that is held. -/
structure Has (t : Terms) (s : Connection × List Event) : Prop where
  charge : InCharge ⟨t.driver?, s.1.link.session?⟩ s
  terms : s.1.terms = t

/-- Nothing of a connection is left. -/
structure Vacant (c : Connection) : Prop where
  session : c.link.session? = none
  pending : c.pending? = none
  transactionOpen : c.link.transactionOpen = false
  bookmark : c.bookmark? = none

/-- How operations leave a connection. Without a driver there is nothing left of it. Its session was
opened with its bookmark, and is only missing if the latest attempt to get one was cut short. -/
structure Owns (t : Terms) (s : Connection × List Event) : Prop extends Has t s where
  vacant : t.driver? = none → Vacant s.1
  bookmark : s.1.link.session?.isSome = true →
    ∀ o, latest? s.2 = some o → o.config.bookmark = s.1.bookmark?
  attempt : t.driver?.isSome = true → lastAttempt? s.2 = some s.1.link.session?.isSome

variable {t : Terms} {k : Holding}

theorem Spares.refl (c : Connection) : Spares c c :=
  ⟨rfl, rfl, rfl, rfl, rfl, rfl, rfl⟩

theorem Spares.trans {c d c' : Connection} (h₁ : Spares c d) (h₂ : Spares d c') : Spares c c' :=
  ⟨h₂.interactive.trans h₁.interactive, h₂.pending.trans h₁.pending,
    h₂.transactionOpen.trans h₁.transactionOpen, h₂.driver.trans h₁.driver,
    h₂.session.trans h₁.session, h₂.bookmark.trans h₁.bookmark, h₂.active.trans h₁.active⟩

theorem Spares.terms {c c' : Connection} (h : Spares c c') : c'.terms = c.terms := by
  unfold Connection.terms
  rw [h.driver, h.active, h.interactive]

theorem Spares.within {c c' : Connection} (h : Spares c c') (hwithin : Within c.link k) :
    Within c'.link k := by
  constructor
  · rw [h.driver]
    exact hwithin.driver
  · rw [h.session]
    exact hwithin.session

theorem Spares.vacant {c c' : Connection} (h : Spares c c') (hvacant : Vacant c) : Vacant c' :=
  ⟨h.session.trans hvacant.session, h.pending.trans hvacant.pending,
    h.transactionOpen.trans hvacant.transactionOpen, h.bookmark.trans hvacant.bookmark⟩

/-! ### Events -/

theorem InCharge.event (h : InCharge k s) {e : Event} (hfits : Fits k e)
    (hwithin : Within s.1.link (k.after e)) : InCharge (k.after e) (s.1, s.2 ++ [e]) := by
  refine ⟨throughout_snoc.2 ⟨h.orderly, h.held ▸ hfits⟩, ?_, hwithin⟩
  rw [held_snoc, h.held]

/-- Uses of the handle change nothing of what is held. -/
theorem InCharge.attends (h : InCharge k s) {c : Connection} {events : List Event}
    (hattends : Attends s.1 events c) : InCharge k (c, s.2 ++ events) := by
  have hlog : InCharge k (s.1, s.2 ++ events) := by
    -- the link stays as it is meanwhile, so each of the events fits it
    have hfrom := hattends.fromHandle
    clear hattends
    induction events using List.reverseRecOn with
    | nil => simpa using h
    | append_singleton events e ih =>
      obtain ⟨hevents, he⟩ := List.forall_mem_append.1 hfrom
      have hone := List.forall_mem_singleton.1 he
      have hafter := hone.ofHandle.after_eq k
      have hnext := (ih hevents).event (hone.fits h.within.session h.within.driver)
        (hafter.symm ▸ h.within)
      rw [hafter] at hnext
      simpa using hnext
  exact ⟨hlog.orderly, hlog.held, hattends.spares.within h.within⟩

/-- What is held behind a call, whether or not the link has it already. -/
theorem InCharge.answered (h : InCharge k s) {call : Call} {reply : call.Reply}
    (hasks : asks (handleUses depth) call s reply s') (hfits : Fits k (.asked call))
    (hwithin : Within s.1.link (k.after (.asked call)))
    (hfits' : Fits (k.after (.asked call)) (.answered call reply)) :
    Orderly s'.2 ∧ Connection.held s'.2 = (k.after (.asked call)).after (.answered call reply) := by
  obtain ⟨during, hduring, hlog⟩ := asks_attends hasks
  have hmeanwhile := (h.event hfits hwithin).attends hduring
  rw [hlog, held_snoc, hmeanwhile.held]
  exact ⟨throughout_snoc.2 ⟨hmeanwhile.orderly, hmeanwhile.held ▸ hfits'⟩, rfl⟩

theorem InCharge.ask (h : InCharge k s) {call : Call} {reply : call.Reply}
    (hasks : asks (handleUses depth) call s reply s') (hfits : Fits k (.asked call))
    (hwithin : Within s.1.link (k.after (.asked call)))
    (hfits' : Fits (k.after (.asked call)) (.answered call reply))
    (hwithin' : Within s.1.link ((k.after (.asked call)).after (.answered call reply))) :
    InCharge ((k.after (.asked call)).after (.answered call reply)) s' := by
  obtain ⟨horderly, hheld⟩ := h.answered hasks hfits hwithin hfits'
  exact ⟨horderly, hheld, (asks_spares hasks).within hwithin'⟩

/-- A call that neither opens nor closes anything. -/
theorem InCharge.steady (h : InCharge k s) {call : Call} {reply : call.Reply}
    (hasks : asks (handleUses depth) call s reply s') (hsteady : Steady call)
    (hfits : Fits k (.asked call)) : InCharge k s' := by
  have hasked := hsteady.asked k
  have hanswered := hsteady.answered k reply
  have hwithin : Within s.1.link ((k.after (.asked call)).after (.answered call reply)) := by
    rw [hasked, hanswered]
    exact h.within
  have hafter := h.ask hasks hfits (hasked.symm ▸ h.within) (hasked.symm ▸ hsteady.fits k reply)
    hwithin
  rwa [hasked, hanswered] at hafter

theorem Has.driver (h : Has t s) : s.1.link.driver? = t.driver? :=
  congrArg Terms.driver? h.terms

theorem Owns.driver_isSome (h : Owns t s) (hsession : s.1.link.session?.isSome = true) :
    t.driver?.isSome = true := by
  cases hdriver : t.driver? with
  | some driver => rfl
  | none =>
    rw [(h.vacant hdriver).session] at hsession
    cases hsession

/-- What else is noted of a connection does not matter. -/
theorem Owns.note (h : Owns t s) {c : Connection} (hterms : c.terms = s.1.terms)
    (hsession : c.link.session? = s.1.link.session?) (hbookmark : c.bookmark? = s.1.bookmark?)
    (hvacant : t.driver? = none → c.pending? = none ∧ c.link.transactionOpen = false) :
    Owns t (c, s.2) := by
  have hdriver : c.link.driver? = s.1.link.driver? := congrArg Terms.driver? hterms
  have hwithin : Within c.link ⟨t.driver?, c.link.session?⟩ :=
    ⟨fun _ hsome => by rw [← hsome, hdriver, h.driver], fun _ => id⟩
  refine ⟨⟨⟨h.charge.orderly, ?_, hwithin⟩, hterms.trans h.terms⟩, fun hnone => ?_, ?_, ?_⟩
  · show Connection.held s.2 = ⟨t.driver?, c.link.session?⟩
    rw [hsession]
    exact h.charge.held
  · obtain ⟨hpending, hopen⟩ := hvacant hnone
    exact ⟨hsession.trans (h.vacant hnone).session, hpending, hopen,
      hbookmark.trans (h.vacant hnone).bookmark⟩
  · show c.link.session?.isSome = true → _
    rw [hsession, hbookmark]
    exact h.bookmark
  · show _ → lastAttempt? s.2 = some c.link.session?.isSome
    rw [hsession]
    exact h.attempt

/-- What spares the connection and gets no session. -/
theorem Owns.spared (h : Owns t s) (hspares : Spares s.1 s'.1)
    (hcharge : InCharge ⟨t.driver?, s.1.link.session?⟩ s') (hlatest : latest? s'.2 = latest? s.2)
    (hattempt : lastAttempt? s'.2 = lastAttempt? s.2) : Owns t s' := by
  rw [← hspares.session] at hcharge
  refine ⟨⟨hcharge, hspares.terms.trans h.terms⟩, fun hnone => hspares.vacant (h.vacant hnone),
    ?_, ?_⟩
  · rw [hspares.session, hspares.bookmark, hlatest]
    exact h.bookmark
  · rw [hspares.session, hattempt]
    exact h.attempt

theorem Owns.attends (h : Owns t s) {c : Connection} {events : List Event}
    (hattends : Attends s.1 events c) : Owns t (c, s.2 ++ events) := by
  have hof : ∀ e ∈ events, OfHandle e := fun e he => (hattends.fromHandle e he).ofHandle
  exact h.spared hattends.spares (h.charge.attends hattends)
    (latest?_append fun e he => (hof e he).opening?_eq)
    (lastAttempt?_append fun e he => (hof e he).attempt?_eq)

theorem Owns.steady (h : Owns t s) {call : Call} {reply : call.Reply}
    (hasks : asks (handleUses depth) call s reply s') (hsteady : Steady call)
    (hfits : Fits ⟨t.driver?, s.1.link.session?⟩ (.asked call))
    (hattempt : attempt? (.answered call reply) = none) : Owns t s' :=
  h.spared (asks_spares hasks) (h.charge.steady hasks hsteady hfits)
    (asks_latest? hasks (hsteady.opening?_eq reply)) (asks_lastAttempt? hasks hattempt)

theorem Owns.settled (h : Owns t s) : Owns t (s.1.applyDiscard, s.2) := by
  unfold applyDiscard
  split
  · exact h.note rfl rfl rfl fun _ => ⟨rfl, rfl⟩
  · exact h

theorem Owns.dropTransaction (h : Owns t s) : Owns t (s.1.dropTransaction, s.2) :=
  h.note rfl rfl rfl fun _ => ⟨rfl, rfl⟩

theorem Owns.requestDiscard (h : Owns t s) :
    Owns t ({ s.1 with link := s.1.link.requestDiscard }, s.2) := by
  unfold Link.requestDiscard
  split
  · refine h.note rfl rfl rfl fun hnone => ?_
    exact ⟨(h.vacant hnone).pending, (h.vacant hnone).transactionOpen⟩
  · exact h

/-- With a session nothing has to be vacant. -/
theorem Owns.noteOpen (h : Owns t s) (hopen : s.1.link.session?.isSome = true) {c : Connection}
    (hterms : c.terms = s.1.terms) (hsession : c.link.session? = s.1.link.session?)
    (hbookmark : c.bookmark? = s.1.bookmark?) : Owns t (c, s.2) := by
  refine h.note hterms hsession hbookmark fun hnone => ?_
  have hdriver := h.driver_isSome hopen
  rw [hnone] at hdriver
  cases hdriver

/-! ### Without a session -/

/-- The session is out of the link and has to be closed. -/
structure Retiring (t : Terms) (session : Driver.SessionRef) (s : Connection × List Event) :
    Prop where
  charge : InCharge ⟨t.driver?, some session⟩ s
  terms : s.1.terms = t
  session : s.1.link.session? = none

/-- The link has all that is held, and that is no session. -/
structure Sessionless (t : Terms) (s : Connection × List Event) : Prop extends Has t s where
  session : s.1.link.session? = none

theorem Has.retiring {session : Driver.SessionRef} (h : Has t s)
    (hsession : s.1.link.session? = some session) :
    Retiring t session ({ s.1 with link := { s.1.link with session? := none } }, s.2) := by
  have hcharge := h.charge
  rw [hsession] at hcharge
  exact ⟨⟨hcharge.orderly, hcharge.held, hcharge.within.driver, nofun⟩, h.terms, rfl⟩

theorem Has.sessionless (h : Has t s) (hsession : s.1.link.session? = none) :
    Sessionless t ({ s.1 with link := { s.1.link with session? := none } }, s.2) :=
  ⟨⟨⟨h.charge.orderly, h.charge.held.trans (by rw [hsession]), h.charge.within.driver, nofun⟩,
    h.terms⟩, rfl⟩

theorem Retiring.bookmark {session : Driver.SessionRef} (h : Retiring t session s)
    (bookmark? : Option Bookmark) : Retiring t session ({ s.1 with bookmark? }, s.2) :=
  ⟨⟨h.charge.orderly, h.charge.held, h.charge.within⟩, h.terms, h.session⟩

theorem Sessionless.bookmark (h : Sessionless t s) (bookmark? : Option Bookmark) :
    Sessionless t ({ s.1 with bookmark? }, s.2) :=
  ⟨⟨⟨h.charge.orderly, h.charge.held, h.charge.within⟩, h.terms⟩, h.session⟩

theorem Sessionless.steady (h : Sessionless t s) {call : Call} {reply : call.Reply}
    (hasks : asks (handleUses depth) call s reply s') (hsteady : Steady call)
    (hfits : Fits ⟨t.driver?, none⟩ (.asked call)) : Sessionless t s' ∧ Spares s.1 s'.1 := by
  have hspares := asks_spares hasks
  have hcharge := h.charge.steady hasks hsteady (h.session ▸ hfits)
  rw [← hspares.session] at hcharge
  exact ⟨⟨⟨hcharge, hspares.terms.trans h.terms⟩, hspares.session.trans h.session⟩, hspares⟩

/-- A session was asked for, and there is none. -/
theorem Sessionless.unopened {driver : Driver.Ref} {config : SessionConfig} {e : Driver.Error}
    (h : Sessionless t s) (hdriver : t.driver? = some driver)
    (hasks : asks (handleUses depth) (.driver (.openSession driver config)) s (.error e) s') :
    Sessionless t s' := by
  have hspares := asks_spares hasks
  have hcharge := h.charge
  rw [h.session] at hcharge
  have hasked : InCharge ⟨t.driver?, none⟩ s' :=
    hcharge.ask hasks ⟨hdriver, rfl⟩ hcharge.within trivial hcharge.within
  have hnone := hspares.session.trans h.session
  rw [← hnone] at hasked
  exact ⟨⟨hasked, hspares.terms.trans h.terms⟩, hnone⟩

/-- An attempt to get a session was cut short. -/
theorem Sessionless.owns {driver : Driver.Ref} (h : Sessionless t s)
    (hdriver : t.driver? = some driver) (hattempt : lastAttempt? s.2 = some false) : Owns t s := by
  refine ⟨h.toHas, fun hnone => ?_, fun hsome => ?_, fun _ => ?_⟩
  · rw [hdriver] at hnone
    cases hnone
  · rw [h.session] at hsome
    cases hsome
  · rw [hattempt, h.session]
    rfl

/-- A session was opened and is put into place. -/
theorem Sessionless.putSession {driver : Driver.Ref} {config : SessionConfig}
    {session : Driver.SessionRef} (h : Sessionless t s) (hdriver : t.driver? = some driver)
    (hbookmark : config.bookmark = s.1.bookmark?)
    (hasks : asks (handleUses depth) (.driver (.openSession driver config)) s (.ok session) s') :
    Owns t ({ s'.1 with link := { s'.1.link with session? := some session } }, s'.2) := by
  have hspares := asks_spares hasks
  have hcharge := h.charge
  rw [h.session] at hcharge
  -- held already, but not yet in the link
  have hopened : InCharge ⟨t.driver?, some session⟩ s' :=
    hcharge.ask hasks ⟨hdriver, rfl⟩ hcharge.within rfl
      ⟨hcharge.within.driver, fun other hother => by simp [h.session] at hother⟩
  obtain ⟨during, hduring, hlog⟩ := asks_attends hasks
  refine ⟨⟨⟨hopened.orderly, hopened.held, hopened.within.driver, fun _ => id⟩,
    hspares.terms.trans h.terms⟩, fun hnone => ?_, fun _ o ho => ?_, fun _ => ?_⟩
  · rw [hdriver] at hnone
    cases hnone
  · have hlatest : latest? s'.2 = some ⟨driver, config, session⟩ := by
      rw [hlog]
      exact latest?_snoc rfl
    obtain rfl : _ = o := Option.some.inj (hlatest.symm.trans ho)
    exact hbookmark.trans hspares.bookmark.symm
  · have hgot := asks_attempted hasks rfl
    exact hgot

/-- A connection without a driver is forgotten. -/
theorem Sessionless.forget (h : Sessionless { t with driver? := none } s) :
    Owns { t with driver? := none } (s.1.forget, s.2) := by
  have hcharge := h.charge
  rw [h.session] at hcharge
  have hlink : s.1.forget.link.session? = none := h.session
  have hforgotten : InCharge ⟨none, s.1.forget.link.session?⟩ (s.1.forget, s.2) := by
    rw [hlink]
    exact ⟨hcharge.orderly, hcharge.held, hcharge.within.driver, hcharge.within.session⟩
  refine ⟨⟨hforgotten, h.terms⟩, fun _ => ⟨hlink, rfl, rfl, rfl⟩, fun hsome => ?_, nofun⟩
  rw [hlink] at hsome
  cases hsome

/-- Another database becomes the active one. -/
theorem Owns.setActive (h : Owns t s) (active : String) :
    Owns { t with active } ({ s.1 with active }, s.2) := by
  refine ⟨⟨⟨h.charge.orderly, h.charge.held, h.charge.within⟩, ?_⟩, fun hnone => ?_, h.bookmark,
    h.attempt⟩
  · rw [← h.terms]
    rfl
  · obtain ⟨hsession, hpending, hopen, hbookmark⟩ := h.vacant hnone
    exact ⟨hsession, hpending, hopen, hbookmark⟩

end QueryShell.Connection
