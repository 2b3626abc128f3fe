import QueryShell.Proofs.Connection.Holdings
import QueryShell.Proofs.Connection.Refusals

/-
What an operation says to drivers and sessions, in its own turns. The log of a run also has all that
the reset handle does meanwhile; `turns` leaves that out, so that the ways in which an operation can
go are few and can be listed. `Renewal` lists those in which a session is replaced.
-/
namespace QueryShell.Connection

open Program

/-! ## Turns -/

/-- A call to a driver or a session, and its reply. -/
structure Turn where
  call : Driver.Call
  reply : call.Reply

/-- Only the reset handle makes these calls. -/
def reserved : Driver.Call → Bool
  | .resetSession _ => true
  | .interrupt _ => true
  | .clearInterrupt _ => true
  | _ => false

/-- The turn that ends with an event. -/
def turn? : Event → Option Turn
  | .answered (.driver call) reply => if reserved call then none else some ⟨call, reply⟩
  | _ => none

/-- The turns of an operation, in their order. -/
def turns (events : List Event) : List Turn :=
  events.filterMap turn?

/-- A session that was looked at, if there is one. -/
def looks (session? : Option Driver.SessionRef) (isOpen : Bool) : List Turn :=
  session?.toList.map (⟨.isOpen ·, isOpen⟩)

@[simp]
theorem looks_none (isOpen : Bool) : looks none isOpen = [] := rfl

@[simp]
theorem looks_some (session : Driver.SessionRef) (isOpen : Bool) :
    looks (some session) isOpen = [⟨.isOpen session, isOpen⟩] := rfl

variable {depth : Nat} {c c' d : Connection} {events : List Event}

@[simp]
theorem turns_nil : turns [] = [] := rfl

@[simp]
theorem turns_append (first second : List Event) :
    turns (first ++ second) = turns first ++ turns second :=
  List.filterMap_append

theorem OfHandle.turn?_eq {e : Event} (h : OfHandle e) : turn? e = none := by
  cases e with
  | asked call => rfl
  | interrupted => rfl
  | answered call reply =>
    cases call with
    | driver call => cases call <;> first | rfl | cases h
    | _ => rfl

/-- Uses of the handle are no turns. -/
theorem turns_handleUses (h : handleUses depth c events d) : turns events = [] :=
  List.filterMap_eq_nil_iff.2 fun e he => ((handleUses_undergoes h).ofHandle e he).turn?_eq

/-- A call of an operation is one turn. -/
theorem asks_turn {s s' : Connection × List Event} {call : Driver.Call} {reply : call.Reply}
    (hown : reserved call = false) (h : asks (handleUses depth) (.driver call) s reply s') :
    turns s'.2 = turns s.2 ++ [⟨call, reply⟩] := by
  obtain ⟨during, hduring, hlog⟩ := h
  have hasked : turns [.asked (.driver call)] = [] := rfl
  have hanswered : turns [.answered (.driver call) reply] = [⟨call, reply⟩] := by
    simp [turns, turn?, hown]
  rw [hlog, ← List.singleton_append, turns_append, turns_append, turns_append, hasked,
    turns_handleUses hduring, hanswered]
  rfl

/-- A warning is no turn. -/
theorem asks_warn {s s' : Connection × List Event} {origin : Origin} {text : String} {reply : Unit}
    (h : asks (handleUses depth) (.console (.warn origin text)) s reply s') :
    turns s'.2 = turns s.2 := by
  obtain ⟨during, hduring, hlog⟩ := h
  have hasked : turns [.asked (.console (.warn origin text))] = [] := rfl
  have hanswered : turns [.answered (.console (.warn origin text)) reply] = [] := rfl
  rw [hlog, ← List.singleton_append, turns_append, turns_append, turns_append, hasked,
    turns_handleUses hduring, hanswered]
  simp

theorem Looks.turns_eq {connected : Bool} (h : Looks depth c events connected d) :
    turns events = looks c.link.session? connected := by
  cases h with
  | nothing hnone =>
    rw [hnone]
    rfl
  | @session session during isOpen _ hsession huses =>
    have hasks : asks (handleUses depth) (.driver (.isOpen session)) (c, []) connected
        (d, .asked (.driver (.isOpen session)) :: during ++
          [.answered (.driver (.isOpen session)) connected]) := ⟨during, huses, rfl⟩
    rw [hsession]
    exact asks_turn rfl hasks

/-! ## Replacing the session -/

/-- The ways in which a driver can be asked for a session: each step is made only if the one before it
succeeded, and what fails is why there is none. -/
inductive Renewal (driver : Driver.Ref) (active : String) (bookmark? : Option Bookmark) :
    List Turn → Except Driver.Error Driver.SessionRef → Prop where
  | unverified (e : Driver.Error) :
      Renewal driver active bookmark? [⟨.verify driver, .error e⟩] (.error e)
  | unopened (e : Driver.Error) :
      Renewal driver active bookmark?
        [⟨.verify driver, .ok ()⟩,
          ⟨.openSession driver (sessionConfig active bookmark?), .error e⟩] (.error e)
  | untested (session : Driver.SessionRef) (e : Driver.Error) :
      Renewal driver active bookmark?
        [⟨.verify driver, .ok ()⟩,
          ⟨.openSession driver (sessionConfig active bookmark?), .ok session⟩,
          ⟨.run session (probe active), .error e⟩] (.error e)
  | renewed (session : Driver.SessionRef) (o : Outcome) :
      Renewal driver active bookmark?
        [⟨.verify driver, .ok ()⟩,
          ⟨.openSession driver (sessionConfig active bookmark?), .ok session⟩,
          ⟨.run session (probe active), .ok o⟩] (.ok session)

/-- The ways in which the session of a connection can be replaced: the one before is asked for its
bookmark and closed, whatever comes of that. -/
inductive Replacement (driver : Driver.Ref) (c : Connection) :
    List Turn → Except Driver.Error Driver.SessionRef → Prop where
  | first {ts : List Turn} {r : Except Driver.Error Driver.SessionRef} :
      c.link.session? = none → Renewal driver c.active c.bookmark? ts r → Replacement driver c ts r
  | next {session : Driver.SessionRef} (latest? : Option Bookmark) (closed : Except Driver.Error Unit)
      {ts : List Turn} {r : Except Driver.Error Driver.SessionRef} :
      c.link.session? = some session → Renewal driver c.active (latest?.or c.bookmark?) ts r →
      Replacement driver c
        (⟨.lastBookmark session, latest?⟩ :: ⟨.closeSession session, closed⟩ :: ts) r

/-! ## What a connection keeps of its turns -/

/-- What a connection keeps of a turn in which its session is replaced. -/
def keep (c : Connection) : Turn → Connection
  | ⟨.lastBookmark _, latest?⟩ => { c with bookmark? := latest?.or c.bookmark? }
  | ⟨.closeSession _, _⟩ => { c with link := { c.link with session? := none } }
  | ⟨.openSession _ _, .ok session⟩ => { c with link := { c.link with session? := some session } }
  | ⟨.run _ _, .ok o⟩ => noteServer o c
  | _ => c

/-- The connection is what was kept of the turns; only its transaction may be asked to be discarded
meanwhile. -/
def Follows (c : Connection) (ts : List Turn) (d : Connection) : Prop :=
  d.withdrawDiscard = (ts.foldl keep c).withdrawDiscard

@[simp]
theorem keep_active (c : Connection) (t : Turn) : (c.keep t).active = c.active := by
  unfold keep
  split <;> rfl

@[simp]
theorem keep_interactive (c : Connection) (t : Turn) : (c.keep t).interactive = c.interactive := by
  unfold keep
  split <;> rfl

@[simp]
theorem keep_driver? (c : Connection) (t : Turn) : (c.keep t).link.driver? = c.link.driver? := by
  unfold keep
  split <;> rfl

theorem keep_withdrawDiscard (c : Connection) (t : Turn) :
    (c.keep t).withdrawDiscard = c.withdrawDiscard.keep t := by
  unfold keep
  split <;> rfl

/-- What no turn changes is as it was. -/
theorem foldl_keep {α : Type} (f : Connection → α) (hkeep : ∀ c t, f (c.keep t) = f c)
    (c : Connection) (ts : List Turn) : f (ts.foldl keep c) = f c := by
  induction ts generalizing c with
  | nil => rfl
  | cons t ts ih => exact (ih (c.keep t)).trans (hkeep c t)

namespace Follows

variable {ts : List Turn}

theorem refl (c : Connection) : Follows c [] c := rfl

theorem active (h : Follows c ts d) : d.active = c.active :=
  (congrArg Connection.active h).trans (foldl_keep Connection.active keep_active c ts)

theorem interactive (h : Follows c ts d) : d.interactive = c.interactive :=
  (congrArg Connection.interactive h).trans (foldl_keep Connection.interactive keep_interactive c ts)

theorem driver (h : Follows c ts d) : d.link.driver? = c.link.driver? :=
  (congrArg (·.link.driver?) h).trans (foldl_keep (·.link.driver?) keep_driver? c ts)

theorem session (h : Follows c ts d) : d.link.session? = (ts.foldl keep c).link.session? := by
  show d.withdrawDiscard.link.session? = _
  rw [h]
  rfl

theorem bookmark (h : Follows c ts d) : d.bookmark? = (ts.foldl keep c).bookmark? := by
  show d.withdrawDiscard.bookmark? = _
  rw [h]
  rfl

/-- One turn more, and what is kept of it. -/
theorem snoc {t : Turn} (h : Follows c ts d)
    (ht : c'.withdrawDiscard = (d.keep t).withdrawDiscard) : Follows c (ts ++ [t]) c' := by
  unfold Follows
  rw [ht, keep_withdrawDiscard, h, ← keep_withdrawDiscard, List.foldl_append]
  rfl

end Follows

theorem Attends.withdrawDiscard (h : Attends c events d) : d.withdrawDiscard = c.withdrawDiscard := by
  rw [h.rest]
  rfl

/-- Meanwhile a call changes nothing else. -/
theorem asks_withdrawDiscard {s s' : Connection × List Event} {call : Call} {reply : call.Reply}
    (h : asks (handleUses depth) call s reply s') :
    s'.1.withdrawDiscard = s.1.withdrawDiscard := by
  obtain ⟨during, hattends, -⟩ := asks_attends h
  exact hattends.withdrawDiscard

variable {s s' : Connection × List Event}

theorem Follows.asked {ts : List Turn} {call : Driver.Call} {reply : call.Reply}
    (h : Follows c ts s.1) (hasks : asks (handleUses depth) (.driver call) s reply s')
    (hkept : d.withdrawDiscard = (s'.1.keep ⟨call, reply⟩).withdrawDiscard) :
    Follows c (ts ++ [⟨call, reply⟩]) d := by
  refine h.snoc ?_
  rw [hkept, keep_withdrawDiscard, keep_withdrawDiscard, asks_withdrawDiscard hasks]

/-- What comes behind the retirement of a session makes a replacement of it. -/
theorem ensures_retireSession_turns (driver : Driver.Ref) (s : Connection × List Event) :
    Ensures (asks (handleUses depth)) retireSession (fun bookmark? s' =>
      ∃ front, turns s'.2 = turns s.2 ++ front ∧ Follows s.1 front s'.1 ∧
        ∀ ts r, Renewal driver s.1.active bookmark? ts r → Replacement driver s.1 (front ++ ts) r) s := by
  unfold retireSession takeSession saveBookmark
  rw [ensures_bind, ensures_modifyGet]
  dsimp only
  cases hsession : s.1.link.session? with
  | none =>
    refine ⟨[], (List.append_nil _).symm, ?_, fun ts r hrenewal => .first hsession hrenewal⟩
    show Connection.withdrawDiscard _ = s.1.withdrawDiscard
    simp [Connection.withdrawDiscard, hsession]
  | some session =>
    rw [ensures_bind]
    refine (ensures_call (.driver (.lastBookmark session)) _ _).2 fun latest? s₁ hasks => ?_
    have hturns := asks_turn rfl hasks
    have hfollows : Follows { s.1 with link := { s.1.link with session? := none } } [] s₁.1 :=
      asks_withdrawDiscard hasks
    rw [ensures_bind, ensures_modifyGet, ensures_bind]
    refine (ensures_call (.driver (.closeSession session)) _ _).2 fun closed s₂ hasks₂ => ?_
    have hturns₂ := (asks_turn rfl hasks₂).trans (congrArg (· ++ _) hturns)
    have hbookmark : latest?.or s₁.1.bookmark? = latest?.or s.1.bookmark? :=
      congrArg latest?.or hfollows.bookmark
    have hsaved : Follows { s.1 with link := { s.1.link with session? := none } }
        [⟨.lastBookmark session, latest?⟩] { s₁.1 with bookmark? := latest?.or s₁.1.bookmark? } :=
      hfollows.snoc rfl
    -- the session was taken out before it was asked, so its closing finds it gone
    have hfollows₂ : Follows s.1
        [⟨.lastBookmark session, latest?⟩, ⟨.closeSession session, closed⟩] s₂.1 :=
      (asks_withdrawDiscard hasks₂).trans hsaved
    have hreplace : ∀ ts r, Renewal driver s.1.active (latest?.or s₁.1.bookmark?) ts r →
        Replacement driver s.1
          ([⟨.lastBookmark session, latest?⟩, ⟨.closeSession session, closed⟩] ++ ts) r :=
      fun ts r hrenewal => .next latest? closed hsession (hbookmark ▸ hrenewal)
    cases closed with
    | ok => exact ⟨_, by simpa using hturns₂, hfollows₂, hreplace⟩
    | error e =>
      dsimp only
      rw [ensures_bind]
      refine (ensures_call (.console (.warn .connection _)) _ _).2 fun reply s₃ hasks₃ => ?_
      refine ⟨_, ?_, (asks_withdrawDiscard hasks₃).trans hfollows₂, hreplace⟩
      rw [asks_warn hasks₃]
      simpa using hturns₂

/-- The turns of `reconnect`, and what is kept of them. -/
theorem ensures_reconnect_follows {driver : Driver.Ref} (hdriver : s.1.link.driver? = some driver) :
    Ensures (asks (handleUses depth)) reconnect.run (fun r s' => ∃ ts renewed,
      turns s'.2 = turns s.2 ++ ts ∧ Replacement driver s.1 ts renewed ∧
        r = renewed.map (fun _ => ()) ∧ Follows s.1 ts s'.1) s := by
  unfold reconnect
  rw [Attempt.ensures_get_bind, hdriver]
  dsimp only
  rw [Attempt.ensures_lift_bind]
  refine (ensures_retireSession_turns driver s).weaken ?_
  rintro bookmark? s₁ ⟨front, hfront, hfollows, hreplace⟩
  rw [Attempt.ensures_bind]
  refine (ensures_call (.driver (.verify driver)) _ s₁).2 fun verified s₂ hasks₂ => ?_
  have hturns₂ := (asks_turn rfl hasks₂).trans (congrArg (· ++ _) hfront)
  have hfollows₂ : Follows s.1 _ s₂.1 := hfollows.asked hasks₂ rfl
  cases verified with
  | error e =>
    exact ⟨_, .error e, by simpa using hturns₂, hreplace _ _ (.unverified e), rfl, hfollows₂⟩
  | ok =>
    refine (Attempt.ensures_get_bind _ _ s₂).2 ?_
    rw [Attempt.ensures_bind, hfollows₂.active]
    refine (ensures_call (.driver (.openSession driver _)) _ s₂).2 fun opened s₃ hasks₃ => ?_
    have hturns₃ := (asks_turn rfl hasks₃).trans (congrArg (· ++ _) hturns₂)
    cases opened with
    | error e =>
      have hfollows₃ : Follows s.1 _ s₃.1 := hfollows₂.asked hasks₃ rfl
      exact ⟨_, .error e, by simpa using hturns₃, hreplace _ _ (.unopened e), rfl,
        by simpa using hfollows₃⟩
    | ok session =>
      refine (Attempt.ensures_lift_bind _ _ _ _).2 ?_
      unfold putSession
      rw [ensures_modify, Attempt.ensures_get_bind, Attempt.ensures_bind]
      have hfollows₃ : Follows s.1 _
          { s₃.1 with link := { s₃.1.link with session? := some session } } :=
        hfollows₂.asked hasks₃ rfl
      dsimp only
      have hactive : s₃.1.active = s.1.active := hfollows₃.active
      refine (ensures_call (.driver (.run session _)) _ _).2 fun tested s₄ hasks₄ => ?_
      have hturns₄ := (asks_turn rfl hasks₄).trans (congrArg (· ++ _) hturns₃)
      cases tested with
      | error e =>
        have hfollows₄ : Follows s.1 _ s₄.1 := hfollows₃.asked hasks₄ rfl
        rw [hactive] at hturns₄ hfollows₄
        exact ⟨_, .error e, by simpa using hturns₄, hreplace _ _ (.untested session e), rfl,
          by simpa using hfollows₄⟩
      | ok o =>
        have hfollows₄ : Follows s.1 _ (noteServer o s₄.1) := hfollows₃.asked hasks₄ rfl
        rw [hactive] at hturns₄ hfollows₄
        exact ⟨_, .ok session, by simpa using hturns₄, hreplace _ _ (.renewed session o), rfl,
          by simpa using hfollows₄⟩

theorem runs_reconnect {driver : Driver.Ref} {r : Except Driver.Error Unit}
    (hdriver : c.link.driver? = some driver)
    (h : Runs (handleUses depth) reconnect.run c events r d) :
    ∃ renewed, Replacement driver c (turns events) renewed ∧ r = renewed.map (fun _ => ()) ∧
      Follows c (turns events) d := by
  obtain ⟨ts, renewed, hturns, hreplaced⟩ :=
    ensures_of_runs_alone (ensures_reconnect_follows hdriver) h
  rw [turns_nil, List.nil_append] at hturns
  exact ⟨renewed, hturns ▸ hreplaced⟩

/-- What replacing a session leaves. -/
structure Replaced (c : Connection) (r : Except Driver.Error Driver.SessionRef) (d : Connection) :
    Prop where
  driver : d.link.driver? = c.link.driver?
  active : d.active = c.active
  session : ∀ session, r = .ok session → d.link.session? = some session

/-- The session of a connection that is left is the one that was opened. -/
theorem Replacement.session {driver : Driver.Ref} {ts : List Turn} {session : Driver.SessionRef}
    (h : Replacement driver c ts (.ok session)) :
    (ts.foldl keep c).link.session? = some session := by
  cases h with
  | first _ hrenewal =>
    cases hrenewal
    rfl
  | next latest? closed _ hrenewal =>
    cases hrenewal
    rfl

/-- The turns of `reconnect`. -/
theorem ensures_reconnect_turns {driver : Driver.Ref} (hdriver : s.1.link.driver? = some driver) :
    Ensures (asks (handleUses depth)) reconnect.run (fun r s' => ∃ ts renewed,
      turns s'.2 = turns s.2 ++ ts ∧ Replacement driver s.1 ts renewed ∧
        r = renewed.map (fun _ => ()) ∧ Replaced s.1 renewed s'.1) s := by
  refine (ensures_reconnect_follows hdriver).weaken ?_
  rintro r s' ⟨ts, renewed, hturns, hreplacement, rfl, hfollows⟩
  refine ⟨ts, renewed, hturns, hreplacement, rfl, hfollows.driver, hfollows.active, ?_⟩
  rintro session rfl
  exact hfollows.session.trans hreplacement.session

end QueryShell.Connection
